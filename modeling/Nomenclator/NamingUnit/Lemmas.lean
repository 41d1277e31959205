import Nomenclator.NamingUnit
import Std.Data.ExtTreeMap.Lemmas
import Std.Data.ExtTreeSet.Lemmas

/-!
# What the operations on a unit do to its views

A unit is seen through a few questions: which identifiers are local (`isLocal`), for which name an
identifier is claimed (`imported?`), which alias is remembered (`alias?`), and which declarations
are written with an identifier (`topLevelsWritten`). There is one lemma for each operation that
changes the answer to such a question.
-/

namespace Nomenclator.NamingUnit

variable (unit : NamingUnit) (identifier name : String)

/-! ### Scopes -/

@[simp]
theorem isLocal_enterScope (x : String) : unit.enterScope.isLocal x = unit.isLocal x := by
  simp [isLocal, enterScope]

/-- Binding a local name adds one identifier to the local ones. -/
theorem isLocal_bindLocal (x : String) :
    (unit.bindLocal name).isLocal x = (x == Identifier.sanitize name || unit.isLocal x) := by
  have hinsert (scope : Std.ExtTreeSet String) :
      (scope.insert (Identifier.sanitize name)).contains x =
        (x == Identifier.sanitize name || scope.contains x) := by
    rw [Bool.eq_iff_iff]
    simp only [Std.ExtTreeSet.contains_insert, Bool.or_eq_true, beq_iff_eq,
      Std.LawfulEqCmp.compare_eq_iff_eq]
    rw [eq_comm]
  unfold bindLocal isLocal
  split
  · rename_i h
    simp [h, hinsert]
  · rename_i innermost outer h
    simp [h, hinsert, Bool.or_assoc]

/-- Binding a local name changes the scopes only. -/
theorem exists_bindLocal_eq : ∃ scopes, unit.bindLocal name = { unit with scopes } := by
  unfold bindLocal
  split <;> exact ⟨_, rfl⟩

/-- Leaving a scope undoes entering it. -/
@[simp]
theorem exitScope_enterScope : unit.enterScope.exitScope = unit := rfl

/-! ### Claims -/

/-- A claim is granted exactly when the identifier is free or claimed for the same name already. -/
theorem claim_fst :
    (unit.claim identifier name).1 = true ↔
      unit.imported? identifier = none ∨ unit.imported? identifier = some name := by
  unfold claim
  split <;> simp_all

/-- A claim sets a free identifier and nothing else. -/
theorem imported?_claim (x : String) :
    (unit.claim identifier name).2.imported? x =
      if x = identifier ∧ unit.imported? identifier = none then some name
      else unit.imported? x := by
  unfold claim
  split
  · simp_all
  · rename_i h
    simp only [imported?, Std.ExtTreeMap.getElem?_insert, Std.LawfulEqCmp.compare_eq_iff_eq] at h ⊢
    by_cases hx : identifier = x
    · subst hx
      simp [h]
    · simp [hx, Ne.symm hx]

/-- What is claimed stays claimed. -/
theorem imported?_claim_of_some {x owner : String} (h : unit.imported? x = some owner) :
    (unit.claim identifier name).2.imported? x = some owner := by
  rw [imported?_claim, if_neg, h]
  rintro ⟨rfl, hnone⟩
  rw [h] at hnone
  cases hnone

/-- Once an identifier is claimed for a name, a further claim for it changes nothing. -/
theorem claim_of_imported (h : unit.imported? identifier = some name) :
    unit.claim identifier name = (true, unit) := by
  simp [claim, h]

/-- A claim touches the claims only. -/
theorem claim_frame :
    (unit.claim identifier name).2.scopes = unit.scopes ∧
      (unit.claim identifier name).2.topLevels = unit.topLevels ∧
      (unit.claim identifier name).2.topLevelsByIdentifier = unit.topLevelsByIdentifier ∧
      (unit.claim identifier name).2.aliases = unit.aliases := by
  unfold claim
  split <;> exact ⟨rfl, rfl, rfl, rfl⟩

/-! ### Aliases -/

/-- A claim remembers no alias. -/
@[simp]
theorem alias?_claim (n : String) :
    (unit.claim identifier name).2.alias? n = unit.alias? n := by
  rw [alias?, alias?, (claim_frame unit identifier name).2.2.2]

/-- The first alias of a name is remembered. -/
theorem alias?_rememberAlias (n : String) :
    (unit.rememberAlias identifier name).alias? n =
      if n = name ∧ unit.alias? name = none then some identifier else unit.alias? n := by
  simp only [rememberAlias, alias?, Std.ExtTreeMap.getElem?_insertIfNew,
    Std.LawfulEqCmp.compare_eq_iff_eq]
  by_cases hn : name = n
  · subst hn
    simp
  · simp [hn, Ne.symm hn]

/-- A name that has an alias keeps it. -/
theorem rememberAlias_of_alias {remembered : String} (h : unit.alias? name = some remembered) :
    unit.rememberAlias identifier name = unit := by
  have hmem : name ∈ unit.aliases := by
    rw [Std.ExtTreeMap.mem_iff_isSome_getElem?, ← alias?, h]
    rfl
  have haliases : unit.aliases.insertIfNew name identifier = unit.aliases := by
    ext1 n
    rw [Std.ExtTreeMap.getElem?_insertIfNew, if_neg]
    exact fun hn => hn.2 hmem
  rw [rememberAlias, haliases]

/-- An alias is granted exactly when the claim is. -/
theorem claimAlias_fst :
    (unit.claimAlias identifier name).1 = (unit.claim identifier name).1 := by
  unfold claimAlias
  rcases unit.claim identifier name with ⟨granted, claimed⟩
  cases granted <;> rfl

/-- An alias that is granted is claimed and remembered; a refused one changes nothing. -/
theorem claimAlias_snd :
    (unit.claimAlias identifier name).2 =
      if (unit.claim identifier name).1 = true then
        (unit.claim identifier name).2.rememberAlias identifier name
      else (unit.claim identifier name).2 := by
  unfold claimAlias
  rcases unit.claim identifier name with ⟨granted, claimed⟩
  cases granted <;> rfl

/-- An alias touches the claims and the remembered aliases only. -/
theorem claimAlias_frame :
    (unit.claimAlias identifier name).2.scopes = unit.scopes ∧
      (unit.claimAlias identifier name).2.topLevels = unit.topLevels ∧
      (unit.claimAlias identifier name).2.topLevelsByIdentifier = unit.topLevelsByIdentifier := by
  obtain ⟨hscopes, htopLevels, hindex, -⟩ := claim_frame unit identifier name
  rw [claimAlias_snd]
  split <;> exact ⟨hscopes, htopLevels, hindex⟩

/-- Remembering an alias claims nothing by itself. -/
theorem imported?_claimAlias (x : String) :
    (unit.claimAlias identifier name).2.imported? x =
      (unit.claim identifier name).2.imported? x := by
  rw [claimAlias_snd]
  split <;> rfl

/-! ### Top-level declarations -/

/-- One more declaration. -/
theorem isTopLevel_declareTopLevel (n : String) :
    (unit.declareTopLevel name).isTopLevel n = true ↔ n = name ∨ unit.isTopLevel n = true := by
  simp only [isTopLevel, declareTopLevel, Std.ExtTreeSet.contains_insert, Bool.or_eq_true,
    beq_iff_eq, Std.LawfulEqCmp.compare_eq_iff_eq]
  rw [eq_comm]

/-- The declarations written with an identifier, after one more declaration. -/
theorem mem_topLevelsWritten_declareTopLevel (x n : String) :
    n ∈ (unit.declareTopLevel name).topLevelsWritten x ↔
      (x = Identifier.ofSimpleName name ∧ n = name) ∨ n ∈ unit.topLevelsWritten x := by
  unfold declareTopLevel topLevelsWritten
  simp only [Std.ExtTreeMap.getD_insert, Std.LawfulEqCmp.compare_eq_iff_eq]
  by_cases hx : Identifier.ofSimpleName name = x
  · subst hx
    simp only [if_true, Std.ExtTreeSet.mem_insert, Std.LawfulEqCmp.compare_eq_iff_eq, true_and]
    rw [eq_comm]
  · simp [hx, Ne.symm hx]

/-- An identifier is shared when a declaration other than the named one is written with it. -/
theorem isSharedTopLevel_iff :
    unit.isSharedTopLevel identifier name = true ↔
      ∃ other ∈ unit.topLevelsWritten identifier, other ≠ name := by
  simp [isSharedTopLevel]

end Nomenclator.NamingUnit
