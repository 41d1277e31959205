import Nomenclator.NamingUnit
import Nomenclator.NamingUnit.AliasCandidate
import Nomenclator.Snippet

/-!
# Resolving references

For every reference to a qualified name the writer asks what to write. The bare identifier of the
last segment is preferred, when nothing in scope or in the unit competes for it; the first such use
claims it as an import. Otherwise an alias is claimed in the same way, or, where no alias is wanted,
the full path is written.

Every candidate is sanitized before it is checked or claimed, so a claim covers the identifier that
is written. Decisions are recorded in the unit, and the same reference gets the same answer as long
as the same local names are bound.

A resolution has no result only when all the attempts of `AliasCandidate.attemptLimit` are taken.
-/

namespace Nomenclator.NamingUnit

/-- The identifier of a name's last segment, if it can be written for that name here; its first use
claims it. Among top-level declarations of the unit that are written alike, the first one to be
referenced gets the identifier. -/
def bareName (unit : NamingUnit) (name : String) : Option String × NamingUnit :=
  let identifier := Identifier.ofSimpleName name
  if unit.isLocal identifier then (none, unit)
  else if unit.isTopLevel name then
    if unit.isSharedTopLevel identifier name then
      let (granted, claimed) := unit.claim identifier name
      (if granted then some identifier else none, claimed)
    else (some identifier, unit)
  else
    match unit.imported? identifier with
    | none =>
      if unit.isSharedTopLevel identifier name then (none, unit)
      else (some identifier, (unit.claim identifier name).2)
    | some owner => (if owner = name then some identifier else none, unit)

/-- Whether an identifier can be written for a name here: no live scope binds it, no other top-level
declaration is written with it, and it is not claimed for another name. -/
def isAvailable (unit : NamingUnit) (identifier name : String) : Bool :=
  !unit.isLocal identifier && !unit.isSharedTopLevel identifier name &&
    (unit.imported? identifier).all (· == name)

/-- Claims an identifier as an alias, if it can be written here. -/
def tryAlias (unit : NamingUnit) (identifier name : String) : Bool × NamingUnit :=
  if unit.isAvailable identifier name then unit.claimAlias identifier name else (false, unit)

/-- The first digest alias that can be claimed, in `attempts` attempts from the given one on. -/
def digestAlias (unit : NamingUnit) (name : String) (attempts attempt : Nat) :
    Option (String × NamingUnit) :=
  match attempts with
  | 0 => none
  | remaining + 1 =>
    let identifier := AliasCandidate.ofDigest name attempt
    match unit.tryAlias identifier name with
    | (true, claimed) => some (identifier, claimed)
    | (false, refused) => refused.digestAlias name remaining (attempt + 1)

/-- The first alias that can be claimed, apart from the one that is remembered. -/
def newAlias (unit : NamingUnit) (name : String) : Option (String × NamingUnit) :=
  let identifier := AliasCandidate.ofPath name
  match unit.tryAlias identifier name with
  | (true, claimed) => some (identifier, claimed)
  | (false, refused) => refused.digestAlias name AliasCandidate.attemptLimit 0

/-- An alias for a name: the remembered one if it can be written here, and otherwise the first that
can be claimed. -/
def aliasName (unit : NamingUnit) (name : String) : Option (String × NamingUnit) :=
  match unit.alias? name with
  | some remembered =>
    if unit.isAvailable remembered name then some (remembered, unit) else unit.newAlias name
  | none => unit.newAlias name

/-- What to write for a name here: its bare identifier or an alias. -/
def resolve (unit : NamingUnit) (name : String) : Option (String × NamingUnit) :=
  match unit.bareName name with
  | (some identifier, claimed) => some (identifier, claimed)
  | (none, refused) => refused.aliasName name

/-- The bare identifier of a name if it can be written here, and otherwise its full path. No alias
is claimed. -/
def bareOrPath (unit : NamingUnit) (name : String) : Snippet × NamingUnit :=
  match unit.bareName name with
  | (some identifier, claimed) => (.ofText identifier, claimed)
  | (none, refused) => (.ofText (Identifier.sanitizePath name), refused)

/-- The name of a package. -/
def packageSnippet (package : String) : Snippet :=
  .ofText (Identifier.sanitizePath package)

end Nomenclator.NamingUnit
