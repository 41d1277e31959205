import Nomenclator.NamingUnit
import Nomenclator.Snippet

/-!
# The import header

The header of a unit imports what its references have claimed, in the order of the qualified names.
A claim under the name's own identifier is imported plainly, any other claim as an alias. The unit's
own top-level declarations need no import under their own identifiers.
-/

namespace Nomenclator.NamingUnit

/-- Whether a claim needs an import: all do but those of the unit's own declarations under their own
identifiers. -/
def needsImport (unit : NamingUnit) (identifier name : String) : Bool :=
  !unit.isTopLevel name || isAliased identifier name

/-- The line that imports a name under an identifier. -/
def importLine (name identifier : String) : String :=
  let line := "import " ++ Identifier.sanitizePath name
  if isAliased identifier name then line ++ " as " ++ identifier else line

/-- The qualified names to import with their identifiers, in ascending order. -/
def importPairs (unit : NamingUnit) : List (String × String) :=
  ((unit.importList.filter fun (identifier, name) => unit.needsImport identifier name).map
    Prod.swap).mergeSort fun a b => (compareLex (compareOn Prod.fst) (compareOn Prod.snd) a b).isLE

/-- The lines of the import header. -/
def importSnippets (unit : NamingUnit) : List Snippet :=
  unit.importPairs.map fun (name, identifier) => .ofText (importLine name identifier)

end Nomenclator.NamingUnit
