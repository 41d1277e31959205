import Nomenclator.Identifier
import Std.Data.ExtTreeMap
import Std.Data.ExtTreeSet

/-!
# The naming state of an output unit

While a unit is written, its naming state holds

* the scopes the writer is inside, each with the local names it binds;
* the qualified names declared at top level in the unit, and an index of them by the identifier that
  their last segment becomes;
* the import claims, from identifiers to qualified names;
* the first alias granted to each qualified name.

Everything that competes is compared as it will be written: local names are stored sanitized, and
claims are made for sanitized identifiers. Two names that sanitize alike, such as `class` and
`class__`, compete for one identifier.

A claim is never taken back. The answers therefore depend on the order of the references, and later
references see every earlier decision.
-/

namespace Nomenclator

/-- The naming state of one output unit. -/
structure NamingUnit where
  /-- The unit's own name, for diagnostics. -/
  label : String
  /-- The identifiers bound by the live scopes, the innermost scope first. -/
  scopes : List (Std.ExtTreeSet String)
  /-- The qualified names declared at top level. -/
  topLevels : Std.ExtTreeSet String
  /-- The qualified names declared at top level, by the identifier of their last segment. -/
  topLevelsByIdentifier : Std.ExtTreeMap String (Std.ExtTreeSet String)
  /-- The qualified name for which an identifier is claimed. -/
  imports : Std.ExtTreeMap String String
  /-- The first alias granted to a qualified name. -/
  aliases : Std.ExtTreeMap String String
deriving DecidableEq

namespace NamingUnit

/-- The state at the start of a unit. -/
def ofLabel (label : String) : NamingUnit where
  label
  scopes := []
  topLevels := ∅
  topLevelsByIdentifier := ∅
  imports := ∅
  aliases := ∅

/-! ### Top-level declarations -/

/-- The top-level declarations that are written with an identifier. -/
def topLevelsWritten (unit : NamingUnit) (identifier : String) : Std.ExtTreeSet String :=
  unit.topLevelsByIdentifier.getD identifier ∅

/-- Records a qualified name as declared at top level in the unit. -/
def declareTopLevel (unit : NamingUnit) (name : String) : NamingUnit :=
  let identifier := Identifier.ofSimpleName name
  { unit with
    topLevels := unit.topLevels.insert name
    topLevelsByIdentifier :=
      unit.topLevelsByIdentifier.insert identifier ((unit.topLevelsWritten identifier).insert name) }

/-- Records several qualified names as declared at top level in the unit. -/
def declareTopLevels (unit : NamingUnit) (names : List String) : NamingUnit :=
  names.foldl declareTopLevel unit

/-- Whether a qualified name is declared at top level in the unit. -/
def isTopLevel (unit : NamingUnit) (name : String) : Bool :=
  unit.topLevels.contains name

/-- Whether a top-level declaration other than the named one is written with an identifier. -/
def isSharedTopLevel (unit : NamingUnit) (identifier name : String) : Bool :=
  (unit.topLevelsWritten identifier).toList.any (· != name)

/-! ### Scopes -/

/-- Enters a scope, such as a method body. -/
def enterScope (unit : NamingUnit) : NamingUnit :=
  { unit with scopes := ∅ :: unit.scopes }

/-- Leaves the innermost scope and forgets its local names. Outside all scopes nothing happens. -/
def exitScope (unit : NamingUnit) : NamingUnit :=
  { unit with scopes := unit.scopes.tail }

/-- Binds a local name in the innermost scope. Outside all scopes a scope is entered first. -/
def bindLocal (unit : NamingUnit) (name : String) : NamingUnit :=
  let identifier := Identifier.sanitize name
  match unit.scopes with
  | [] => { unit with scopes := [(∅ : Std.ExtTreeSet String).insert identifier] }
  | innermost :: outer => { unit with scopes := innermost.insert identifier :: outer }

/-- Whether a live scope binds an identifier. -/
def isLocal (unit : NamingUnit) (identifier : String) : Bool :=
  unit.scopes.any (·.contains identifier)

/-- The number of live scopes. -/
def scopeDepth (unit : NamingUnit) : Nat :=
  unit.scopes.length

/-! ### Claims -/

/-- The qualified name for which an identifier is claimed. -/
def imported? (unit : NamingUnit) (identifier : String) : Option String :=
  unit.imports[identifier]?

/-- Claims an identifier for a qualified name. An identifier that is claimed for another name is
refused, and then nothing changes. -/
def claim (unit : NamingUnit) (identifier name : String) : Bool × NamingUnit :=
  match unit.imported? identifier with
  | some owner => (owner == name, unit)
  | none => (true, { unit with imports := unit.imports.insert identifier name })

/-- The first alias granted to a qualified name. -/
def alias? (unit : NamingUnit) (name : String) : Option String :=
  unit.aliases[name]?

/-- Remembers an alias of a qualified name, unless one is remembered already. -/
def rememberAlias (unit : NamingUnit) (identifier name : String) : NamingUnit :=
  { unit with aliases := unit.aliases.insertIfNew name identifier }

/-- Claims an identifier as an alias of a qualified name and remembers it. -/
def claimAlias (unit : NamingUnit) (identifier name : String) : Bool × NamingUnit :=
  match unit.claim identifier name with
  | (true, claimed) => (true, claimed.rememberAlias identifier name)
  | (false, refused) => (false, refused)

/-- All claims, in the order of their identifiers. -/
def importList (unit : NamingUnit) : List (String × String) :=
  unit.imports.toList

/-- Whether anything is claimed. -/
def hasImports (unit : NamingUnit) : Bool :=
  !unit.imports.isEmpty

/-- Whether a claim is for another identifier than that of the name's own last segment. -/
def isAliased (identifier name : String) : Bool :=
  identifier != Identifier.ofSimpleName name

/-- How many claims and declarations a unit has. -/
structure Counts where
  /-- Claims under the name's own last segment. -/
  bare : Nat
  /-- Claims under another identifier. -/
  aliased : Nat
  /-- Top-level declarations. -/
  topLevel : Nat
deriving DecidableEq, Repr

/-- How many claims and declarations the unit has. -/
def counts (unit : NamingUnit) : Counts :=
  let aliased := unit.importList.countP fun (identifier, name) => isAliased identifier name
  { bare := unit.imports.size - aliased, aliased, topLevel := unit.topLevels.size }

end NamingUnit

end Nomenclator
