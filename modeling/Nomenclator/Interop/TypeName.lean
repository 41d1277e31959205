import Nomenclator.Declaration
import Nomenclator.Interop.Location
import Nomenclator.Settings
import Nomenclator.Text.Casing

/-!
# Foreign names of types

An attached name wins, and then a well-known name from the settings. Any other type is named by its
simple name in title case, after

* the foreign name of the enclosing type and an underscore, for a nested type;
* the attached prefix, if there is one;
* the segments of the package in title case, run together.

A package below a reserved root gets the reserved namespace in front, except where the type is named
for a member.

| declaration                       | foreign name                  |
|-----------------------------------|-------------------------------|
| `org.jbox2d.dynamics.Body`        | `OrgJbox2dDynamicsBody`       |
| `org.jbox2d.dynamics.Body.Flags`  | `OrgJbox2dDynamicsBody_Flags` |
| `java.util.ArrayList`             | `J2ktJavaUtilArrayList`       |
| `java.lang.String`                | `NSString`                    |
-/

namespace Nomenclator.Interop

/-- The name of the root object where any object will do. -/
def idName : String :=
  "id"

/-- A name with underscores for dollar signs. -/
def dollarFree (name : String) : String :=
  Text.replaceChar '$' "_" name

/-- A simple name or a package segment as a part of a foreign name. -/
def nameSegment (name : String) : String :=
  dollarFree (Text.titleCase name)

/-- The segments of a package, after the reserved namespace outside members. -/
def packageSegments (settings : Settings) (forMember : Bool) (package : String) : List String :=
  if !forMember && settings.isReservedPackage package then
    settings.reservedRootNamespace :: DottedName.segments package
  else DottedName.segments package

/-- The package of a type as the beginning of a foreign name. -/
def packagePart (settings : Settings) (forMember : Bool) (package : String) : String :=
  String.join ((packageSegments settings forMember package).map nameSegment)

/-- The beginning of the foreign name of a top-level type. -/
def topLevelPart (settings : Settings) (forMember : Bool) (traits : TypeTraits) : String :=
  match traits.interopNamePrefix? with
  | some start => start
  | none =>
    match traits.package? with
    | some package => packagePart settings forMember package
    | none => ""

/-- The name that a type has whatever surrounds it. -/
def fixedName? (settings : Settings) (traits : TypeTraits) : Option String :=
  match traits.interopName? with
  | some name => some name
  | none => settings.wellKnownName? traits.qualifiedName.spelling

/-- The foreign name of a type, for a member or outside members. -/
def typeName (settings : Settings) (forMember : Bool) : TypeDeclaration → String
  | .topLevel traits =>
    match fixedName? settings traits with
    | some name => name
    | none => topLevelPart settings forMember traits ++ nameSegment traits.simpleSourceName
  | .nested traits enclosing =>
    match fixedName? settings traits with
    | some name => name
    | none => typeName settings forMember enclosing ++ "_" ++ nameSegment traits.simpleSourceName

/-- The name of a primitive type; that of the `null` literal has none. -/
def primitiveName? : PrimitiveKind → Option String
  | .void => some "void"
  | .boolean => some "boolean"
  | .byte => some "byte"
  | .short => some "short"
  | .int => some "int"
  | .long => some "long"
  | .char => some "char"
  | .float => some "float"
  | .double => some "double"
  | .null => none

/-- What an array adds to the name of its leaf. -/
def arrayPart (dimensions : UInt64) : String :=
  if dimensions > 1 then "Array" ++ toString dimensions.toNat else "Array"

/-- The foreign name of a value type. With `useId` the root object is `id`, though never as the leaf
of an array; an intersection is `id` in any case. -/
def descriptorName (settings : Settings) (forMember : Bool) (location : Location) (useId : Bool) :
    TypeDescriptor → Except NamingError String
  | .primitive kind =>
    match primitiveName? kind with
    | some name => .ok name
    | none =>
      .error (.unexpectedDescriptor location ("null " ++ (TypeDescriptor.primitive kind).kindName))
  | .array leaf dimensions => do
    let leafName ← descriptorName settings forMember location false leaf
    return leafName ++ arrayPart dimensions
  | .declared declaration =>
    if useId && declaration.isRootObject then .ok idName
    else .ok (typeName settings forMember declaration)
  | .typeVariable _ upperBound => descriptorName settings forMember location useId upperBound
  | .intersection _ => .ok idName

/-- The type of a parameter as a part of a foreign name. -/
def parameterName (settings : Settings) (location : Location) (parameter : Variable) :
    Except NamingError String := do
  let name ← descriptorName settings true (location.inParameter parameter.name) true parameter.type
  return Text.titleCase name

end Nomenclator.Interop
