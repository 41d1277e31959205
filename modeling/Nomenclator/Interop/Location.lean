/-!
# Where naming can fail

Naming fails in one way only: the type of the `null` literal turns up where a value type has to be
named. That is a defect of the declarations, so the report says where in them it was found.
-/

namespace Nomenclator.Interop

/-- A place in the declarations. -/
structure Location where
  /-- The type that is named or that has the member. -/
  type? : Option String
  /-- The method or field. -/
  member? : Option String
  /-- The parameter. -/
  parameter? : Option String
deriving DecidableEq, Repr

namespace Location

/-- A place of which nothing is known. -/
def unknown : Location where
  type? := none
  member? := none
  parameter? := none

/-- A place in a type. -/
def inType (location : Location) (name : String) : Location :=
  { location with type? := some name }

/-- A place in a method or field. -/
def inMember (location : Location) (name : String) : Location :=
  { location with member? := some name }

/-- A place in a parameter. -/
def inParameter (location : Location) (name : String) : Location :=
  { location with parameter? := some name }

/-- A place in words, such as `org.jbox2d.dynamics.Body::setTransform(angle)`. -/
def describe (location : Location) : String :=
  let declaration :=
    match location.type?, location.member? with
    | some type, some member => type ++ "::" ++ member
    | some type, none => type
    | none, some member => "::" ++ member
    | none, none => "<unknown declaration>"
  match location.parameter? with
  | some parameter => declaration ++ "(" ++ parameter ++ ")"
  | none => declaration

end Location

/-- Why a declaration has no name. -/
inductive NamingError where
  /-- A type that cannot be named there. -/
  | unexpectedDescriptor (location : Location) (descriptor : String)
deriving DecidableEq, Repr

/-- The wording of an error. -/
def NamingError.message : NamingError → String
  | .unexpectedDescriptor location descriptor =>
    "Unexpected " ++ descriptor ++ " descriptor at " ++ location.describe

end Nomenclator.Interop
