import Nomenclator.Declaration
import Nomenclator.Identifier
import Nomenclator.Interop.Reserved
import Nomenclator.Interop.TypeName

/-!
# Foreign names of fields

A field keeps its name, with three exceptions. Dollar signs become underscores. A name that begins
like a method that hands over ownership, such as `newContact`, gets `the` in front. A reserved name
gets two underscores at the end.
-/

namespace Nomenclator.Interop

/-- The words at the beginning of a method's name by which the foreign runtime knows that the method
hands over ownership. -/
def ownershipWords : List String :=
  ["new", "copy", "alloc", "init", "mutableCopy"]

/-- Whether a name begins like a method that hands over ownership. -/
def hasOwnershipWord (name : String) : Bool :=
  ownershipWords.any (Text.startsWithWord name)

/-- What stands in front of a field whose name begins like a method that hands over ownership. -/
def fieldFiller : String :=
  "the"

/-- A name with the filler in front if it needs one. -/
def fillerName (name : String) : String :=
  if hasOwnershipWord name then fieldFiller ++ Text.titleCase name else name

/-- A name moved away from the reserved names. -/
def unreservedName (name : String) : String :=
  if isReserved name then name ++ Identifier.forbiddenSuffix else name

/-- The foreign name of a field. -/
def fieldName (name : String) : String :=
  unreservedName (fillerName (dollarFree name))

end Nomenclator.Interop
