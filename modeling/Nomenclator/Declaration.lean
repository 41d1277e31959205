import Nomenclator.QualifiedName

/-!
# Declarations

The facts about a program that naming needs: which types, fields and methods are declared, how they
are nested, how visible they are, and which names earlier processing has attached to them.

A type declaration is a chain of traits, from the type itself out to its top-level type. The value
types of parameters are described by `TypeDescriptor`.
-/

namespace Nomenclator

/-- Declared visibility of a type or a member. -/
inductive Visibility where
  | publicAccess
  | protectedAccess
  | packageAccess
  | privateAccess
deriving DecidableEq, Repr

/-- Whether a declaration can be seen by foreign consumers. -/
def Visibility.isExternallyVisible : Visibility → Bool
  | .publicAccess | .protectedAccess => true
  | .packageAccess | .privateAccess => false

/-- What is known of one declared type, its enclosing types apart. -/
structure TypeTraits where
  qualifiedName : QualifiedName
  /-- The unqualified name as written in the source. -/
  simpleSourceName : String
  /-- The package path; none is the default package. -/
  package? : Option String
  visibility : Visibility
  /-- Whether the type is declared inside a method body. -/
  isLocal : Bool
  /-- A foreign name attached to the type. -/
  interopName? : Option String
  /-- A prefix for the foreign name attached to the type. -/
  interopNamePrefix? : Option String
deriving DecidableEq

/-- A declared class, interface or enumeration. -/
inductive TypeDeclaration where
  /-- A type outside every other type. -/
  | topLevel (traits : TypeTraits)
  /-- A type directly inside another type. -/
  | nested (traits : TypeTraits) (enclosing : TypeDeclaration)
deriving DecidableEq

namespace TypeDeclaration

/-- The traits of the type itself. -/
def traits : TypeDeclaration → TypeTraits
  | topLevel traits | nested traits _ => traits

/-- The directly enclosing type. -/
def enclosing? : TypeDeclaration → Option TypeDeclaration
  | topLevel _ => none
  | nested _ enclosing => some enclosing

/-- The traits of the type and of its enclosing types, from the inside out. -/
def chain : TypeDeclaration → List TypeTraits
  | topLevel traits => [traits]
  | nested traits enclosing => traits :: enclosing.chain

/-- The declaration with other traits. -/
def withTraits (declaration : TypeDeclaration) (change : TypeTraits → TypeTraits) :
    TypeDeclaration :=
  match declaration with
  | topLevel traits => topLevel (change traits)
  | nested traits enclosing => nested (change traits) enclosing

/-- The qualified name of the type. -/
def qualifiedName (declaration : TypeDeclaration) : QualifiedName :=
  declaration.traits.qualifiedName

/-- A public top-level type; package and simple name come from the qualified name. -/
def ofQualifiedName (name : String) : Except QualifiedName.Error TypeDeclaration := do
  let qualifiedName ← QualifiedName.parse name
  return topLevel
    { qualifiedName
      simpleSourceName := qualifiedName.simpleName
      package? := qualifiedName.package?
      visibility := .publicAccess
      isLocal := false
      interopName? := none
      interopNamePrefix? := none }

/-- A public type directly inside another one, in the same package. -/
def member (enclosing : TypeDeclaration) (name : String) :
    Except QualifiedName.Error TypeDeclaration := do
  let qualifiedName ← enclosing.qualifiedName.child name
  return nested
    { qualifiedName
      simpleSourceName := name
      package? := enclosing.traits.package?
      visibility := .publicAccess
      isLocal := false
      interopName? := none
      interopNamePrefix? := none }
    enclosing

/-- The declaration with another visibility. -/
def withVisibility (declaration : TypeDeclaration) (visibility : Visibility) : TypeDeclaration :=
  declaration.withTraits fun traits => { traits with visibility }

/-- The declaration moved into a method body. -/
def asLocal (declaration : TypeDeclaration) : TypeDeclaration :=
  declaration.withTraits fun traits => { traits with isLocal := true }

/-- The declaration with a foreign name attached. -/
def withInteropName (declaration : TypeDeclaration) (name : String) : TypeDeclaration :=
  declaration.withTraits fun traits => { traits with interopName? := some name }

/-- The declaration with a prefix for its foreign name attached. -/
def withInteropNamePrefix (declaration : TypeDeclaration) (start : String) : TypeDeclaration :=
  declaration.withTraits fun traits => { traits with interopNamePrefix? := some start }

/-- The qualified name of the type that every other type extends. -/
def rootObject : String :=
  "java.lang.Object"

/-- Whether the type is the one that every other type extends. -/
def isRootObject (declaration : TypeDeclaration) : Bool :=
  declaration.qualifiedName.spelling == rootObject

end TypeDeclaration

/-- The primitive value types, with the type of the `null` literal, which no declaration has. -/
inductive PrimitiveKind where
  | void
  | boolean
  | byte
  | short
  | int
  | long
  | char
  | float
  | double
  | null
deriving DecidableEq, Repr

/-- The type of a value. -/
inductive TypeDescriptor where
  | primitive (kind : PrimitiveKind)
  /-- An array of one or more dimensions over a leaf type. -/
  | array (leaf : TypeDescriptor) (dimensions : UInt64)
  | declared (declaration : TypeDeclaration)
  | typeVariable (name : String) (upperBound : TypeDescriptor)
  | intersection (members : List TypeDescriptor)

namespace TypeDescriptor

/-- An array with the given components. An array of arrays is one array of more dimensions. -/
def arrayOf : TypeDescriptor → TypeDescriptor
  | array leaf dimensions => array leaf (dimensions + 1)
  | component => array component 1

/-- What kind of type a descriptor stands for, in words. -/
def kindName : TypeDescriptor → String
  | primitive _ => "primitive"
  | array .. => "array"
  | declared _ => "declared"
  | typeVariable .. => "type variable"
  | intersection _ => "intersection"

end TypeDescriptor

/-- A parameter of a method. -/
structure Variable where
  name : String
  type : TypeDescriptor

/-- A declared field. -/
structure FieldDescriptor where
  name : String
  enclosing : TypeDeclaration
  visibility : Visibility
  isStatic : Bool
deriving DecidableEq

namespace FieldDescriptor

/-- A public static field. -/
def ofName (enclosing : TypeDeclaration) (name : String) : FieldDescriptor :=
  { name, enclosing, visibility := .publicAccess, isStatic := true }

/-- The field with another visibility. -/
def withVisibility (field : FieldDescriptor) (visibility : Visibility) : FieldDescriptor :=
  { field with visibility }

/-- The field as one that every instance has. -/
def asInstance (field : FieldDescriptor) : FieldDescriptor :=
  { field with isStatic := false }

end FieldDescriptor

/-- A declared method or constructor. -/
structure MethodDescriptor where
  name : String
  enclosing : TypeDeclaration
  visibility : Visibility
  isConstructor : Bool
  /-- Whether the method overrides one that foreign consumers already see. -/
  isInteropOverride : Bool
  /-- A selector attached to the method, its parts separated by colons. -/
  interopSelector? : Option String
  parameters : List Variable

namespace MethodDescriptor

/-- The name under which constructors are declared. -/
def constructorName : String :=
  "<init>"

/-- A public method without parameters that overrides nothing. -/
def ofName (enclosing : TypeDeclaration) (name : String) : MethodDescriptor :=
  { name
    enclosing
    visibility := .publicAccess
    isConstructor := false
    isInteropOverride := false
    interopSelector? := none
    parameters := [] }

/-- A public constructor without parameters. -/
def constructor (enclosing : TypeDeclaration) : MethodDescriptor :=
  { ofName enclosing constructorName with isConstructor := true }

/-- The method with another visibility. -/
def withVisibility (method : MethodDescriptor) (visibility : Visibility) : MethodDescriptor :=
  { method with visibility }

/-- The method with a selector attached. -/
def withSelector (method : MethodDescriptor) (selector : String) : MethodDescriptor :=
  { method with interopSelector? := some selector }

/-- The method with one more parameter at the end. -/
def withParameter (method : MethodDescriptor) (parameter : Variable) : MethodDescriptor :=
  { method with parameters := method.parameters ++ [parameter] }

/-- The method as an override of one that foreign consumers already see. -/
def asInteropOverride (method : MethodDescriptor) : MethodDescriptor :=
  { method with isInteropOverride := true }

end MethodDescriptor

end Nomenclator
