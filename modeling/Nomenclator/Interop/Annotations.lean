import Nomenclator.Interop.FieldName
import Nomenclator.Interop.MethodName
import Nomenclator.NamingUnit.Resolve

/-!
# Annotations that carry foreign names

An annotation is written in a unit, so its class is a reference like any other: it is written with
its bare identifier where that can be had, which claims the identifier, and with its full path
otherwise. Annotations never claim an alias.
-/

namespace Nomenclator.Interop.Annotations

/-- The annotation of a file that opts in to the experimental feature, from the two classes as they
are written. -/
def fileSnippet (optInClass markerClass : Snippet) : Snippet :=
  let argument := Snippet.join [markerClass, .ofText "::class"]
  .join [.ofText "@file:", optInClass, argument.inBrackets]

/-- The annotation of a file that opts in to the experimental feature, such as
`@file:OptIn(ExperimentalObjCName::class)`. -/
def optIn (settings : Settings) (unit : NamingUnit) : Snippet × NamingUnit :=
  let (optInClass, afterOptIn) := unit.bareOrPath settings.annotations.optIn
  let (markerClass, afterMarker) := afterOptIn.bareOrPath settings.annotations.experimentalMarker
  (fileSnippet optInClass markerClass, afterMarker)

/-- The argument that says whether a foreign name is exact; without a value there is none. -/
def exactArgument : Option Bool → Snippet
  | some value => .assignment (.ofText "exact") (.boolLiteral value)
  | none => .empty

/-- The annotation with a foreign name, from its class as it is written. -/
def nameSnippet (nameClass : Snippet) (name : String) (exactness? : Option Bool) : Snippet :=
  let arguments := Snippet.commaSeparated [.stringLiteral name, exactArgument exactness?]
  .join [.ofText "@", nameClass, arguments.inBrackets]

/-- The annotation with a foreign name, such as `@ObjCName("name", exact = true)`. -/
def withName (settings : Settings) (name : String) (exactness? : Option Bool)
    (unit : NamingUnit) : Snippet × NamingUnit :=
  let (nameClass, afterClass) := unit.bareOrPath settings.annotations.interopName
  (nameSnippet nameClass name exactness?, afterClass)

/-- The annotation of a type, if it needs one. -/
def forType (settings : Settings) (declaration : TypeDeclaration) (unit : NamingUnit) :
    Snippet × NamingUnit :=
  if declaration.isAnnotated then
    withName settings (typeName settings false declaration) (some true) unit
  else (.empty, unit)

/-- The annotation of a field, if it needs one. -/
def forField (settings : Settings) (field : FieldDescriptor) (unit : NamingUnit) :
    Snippet × NamingUnit :=
  if field.isAnnotated then
    withName settings (fieldName field.name) (some false) unit
  else (.empty, unit)

/-- The annotation of a method with the given foreign names. A constructor never has one: its names
are all in the labels. -/
def forMethod (settings : Settings) (method : MethodDescriptor) (names? : Option MethodNames)
    (unit : NamingUnit) : Snippet × NamingUnit :=
  if method.isConstructor then (.empty, unit)
  else
    match names?.bind MethodNames.methodName? with
    | some name => withName settings name (some false) unit
    | none => (.empty, unit)

/-- The annotation of a parameter with a label. -/
def forParameter (settings : Settings) (label : String) (unit : NamingUnit) :
    Snippet × NamingUnit :=
  withName settings label none unit

end Nomenclator.Interop.Annotations
