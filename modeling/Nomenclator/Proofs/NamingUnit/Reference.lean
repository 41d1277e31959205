import Mathlib.Tactic
import Nomenclator.NamingUnit.Lemmas
import Nomenclator.NamingUnit.Resolve

/-!
# References and what they get

A reference asks for an identifier to write for a qualified name. It gets the bare identifier of the
last segment, an alias, or nothing, and then the full path is written. `refer` makes one reference
and keeps a record of it: the unit as the reference found it, the name, and what was granted.

`Answers` lists the ways in which a reference can be answered, each with the conditions under which
it is chosen and the claim that it makes. It holds of every reference to every unit
(`answers_of_refer`), so whatever all five ways preserve is preserved by `resolve`, by `bareName`
and by everything that is written with them.

The alias search runs along one stream of candidates. `newAlias_eq_some_iff` says that it grants the
first one that is available, and that nothing is left behind by those that are not.
-/

namespace Nomenclator.NamingUnit

variable {unit next : NamingUnit} {name identifier : String}

/-- What a reference gets. -/
inductive Grant where
  /-- The identifier of the name's own last segment. -/
  | bare (identifier : String)
  /-- An identifier that stands for the whole path. -/
  | aliased (identifier : String)
  /-- No identifier: the full path is written. -/
  | path
deriving DecidableEq

/-- The identifier that is handed out, if there is one. -/
def Grant.identifier? : Grant → Option String
  | .bare identifier | .aliased identifier => some identifier
  | .path => none

/-- A reference that has been made. -/
structure Reference where
  /-- The unit as the reference found it. -/
  moment : NamingUnit
  name : String
  grant : Grant
deriving DecidableEq

namespace Reference

/-- The identifier that is handed out for the name, if there is one. -/
def identifier? (reference : Reference) : Option String :=
  reference.grant.identifier?

/-- What is written for the name: its identifier, or else its full path. -/
def text (reference : Reference) : String :=
  reference.identifier?.getD (Identifier.sanitizePath reference.name)

end Reference

/-- Refers to a name. Where the bare identifier cannot be had, an alias is claimed or the full path
is left to be written. -/
def refer (unit : NamingUnit) (name : String) (aliasable : Bool) :
    Option (Reference × NamingUnit) :=
  match unit.bareName name with
  | (some identifier, claimed) => some (⟨unit, name, .bare identifier⟩, claimed)
  | (none, refused) =>
    if aliasable then
      (refused.aliasName name).map fun (identifier, claimed) =>
        (⟨unit, name, .aliased identifier⟩, claimed)
    else some (⟨unit, name, .path⟩, refused)

/-! ### Availability -/

/-- An identifier is available when nothing here competes for it. -/
theorem isAvailable_iff :
    unit.isAvailable identifier name = true ↔
      unit.isLocal identifier = false ∧ unit.isSharedTopLevel identifier name = false ∧
        (unit.imported? identifier = none ∨ unit.imported? identifier = some name) := by
  unfold isAvailable
  cases unit.imported? identifier <;> simp [and_assoc]

/-- What is available can be claimed. -/
theorem claim_fst_of_isAvailable (h : unit.isAvailable identifier name = true) :
    (unit.claim identifier name).1 = true :=
  (claim_fst unit identifier name).mpr (isAvailable_iff.mp h).2.2

/-- Claiming an alias succeeds exactly when it is available, and leaves no trace when it is not. -/
theorem tryAlias_eq :
    unit.tryAlias identifier name =
      if unit.isAvailable identifier name then (true, (unit.claimAlias identifier name).2)
      else (false, unit) := by
  unfold tryAlias
  split
  · rename_i h
    have hgranted : (unit.claimAlias identifier name).1 = true := by
      rw [claimAlias_fst]
      exact claim_fst_of_isAvailable h
    rw [← hgranted]
  · rfl

/-! ### The alias search -/

/-- The candidates for a new alias, in the order in which they are tried. -/
def aliasCandidate (name : String) : ℕ → String
  | 0 => AliasCandidate.ofPath name
  | attempt + 1 => AliasCandidate.ofDigest name attempt

/-- An identifier is one of the candidates for a new alias. -/
def IsAliasCandidate (name identifier : String) : Prop :=
  ∃ k < AliasCandidate.attemptLimit + 1, aliasCandidate name k = identifier

/-- An identifier is the first available one among so many candidates for a name. -/
def IsFirstAvailable (unit : NamingUnit) (name : String) (candidates : ℕ → String) (bound : ℕ)
    (identifier : String) : Prop :=
  ∃ k < bound, candidates k = identifier ∧ unit.isAvailable identifier name = true ∧
    ∀ j < k, unit.isAvailable (candidates j) name = false

theorem IsFirstAvailable.isAvailable {candidates : ℕ → String} {bound : ℕ}
    (h : unit.IsFirstAvailable name candidates bound identifier) :
    unit.isAvailable identifier name = true := by
  obtain ⟨-, -, -, havailable, -⟩ := h
  exact havailable

theorem IsFirstAvailable.isAliasCandidate
    (h : unit.IsFirstAvailable name (aliasCandidate name) (AliasCandidate.attemptLimit + 1)
      identifier) : IsAliasCandidate name identifier := by
  obtain ⟨k, hk, hcandidate, -⟩ := h
  exact ⟨k, hk, hcandidate⟩

/-- The first candidate is tried first. -/
theorem isFirstAvailable_succ_iff {candidates : ℕ → String} {bound : ℕ} :
    unit.IsFirstAvailable name candidates (bound + 1) identifier ↔
      if unit.isAvailable (candidates 0) name = true then candidates 0 = identifier
      else unit.IsFirstAvailable name (fun k => candidates (k + 1)) bound identifier := by
  split
  · rename_i h
    constructor
    · rintro ⟨k, -, hk, -, hrefused⟩
      cases k with
      | zero => exact hk
      | succ k =>
        rw [hrefused 0 (by omega)] at h
        cases h
    · rintro rfl
      exact ⟨0, by omega, rfl, h, fun j hj => absurd hj (by omega)⟩
  · rename_i h
    constructor
    · rintro ⟨k, hk, hid, havailable, hrefused⟩
      cases k with
      | zero => exact absurd (hid ▸ havailable) h
      | succ k => exact ⟨k, by omega, hid, havailable, fun j hj => hrefused (j + 1) (by omega)⟩
    · rintro ⟨k, hk, hid, havailable, hrefused⟩
      refine ⟨k + 1, by omega, hid, havailable, fun j hj => ?_⟩
      cases j with
      | zero => exact Bool.eq_false_iff.mpr h
      | succ j => exact hrefused j (by omega)

private theorem some_alias_eq_some_iff {candidate : String} :
    some (candidate, (unit.claimAlias candidate name).2) = some (identifier, next) ↔
      candidate = identifier ∧ next = (unit.claimAlias identifier name).2 := by
  rw [Option.some.injEq, Prod.mk.injEq]
  constructor
  · rintro ⟨rfl, rfl⟩
    exact ⟨rfl, rfl⟩
  · rintro ⟨rfl, rfl⟩
    exact ⟨rfl, rfl⟩

/-- The digest search grants the first available digest alias. -/
theorem digestAlias_eq_some_iff (attempts attempt : ℕ) :
    unit.digestAlias name attempts attempt = some (identifier, next) ↔
      unit.IsFirstAvailable name (fun k => AliasCandidate.ofDigest name (attempt + k)) attempts
          identifier ∧
        next = (unit.claimAlias identifier name).2 := by
  induction attempts generalizing attempt with
  | zero => simp [digestAlias, IsFirstAvailable]
  | succ remaining ih =>
    -- what is left of the stream is the stream from the next attempt on
    have hshift : (fun k => AliasCandidate.ofDigest name (attempt + (k + 1))) =
        fun k => AliasCandidate.ofDigest name (attempt + 1 + k) :=
      funext fun k => by rw [Nat.add_assoc, Nat.add_comm 1 k]
    rw [digestAlias, tryAlias_eq, isFirstAvailable_succ_iff, hshift, Nat.add_zero attempt]
    by_cases h : unit.isAvailable (AliasCandidate.ofDigest name attempt) name = true
    · rw [if_pos h, if_pos h]
      exact some_alias_eq_some_iff
    · rw [if_neg h, if_neg h]
      exact ih (attempt + 1)

/-- The whole digest search grants the first available digest alias. -/
theorem digestAlias_zero_eq_some_iff {attempts : ℕ} :
    unit.digestAlias name attempts 0 = some (identifier, next) ↔
      unit.IsFirstAvailable name (AliasCandidate.ofDigest name) attempts identifier ∧
        next = (unit.claimAlias identifier name).2 := by
  have h := @digestAlias_eq_some_iff unit next name identifier attempts 0
  simp only [Nat.zero_add] at h
  exact h

/-- A new alias is the first available candidate. -/
theorem newAlias_eq_some_iff :
    unit.newAlias name = some (identifier, next) ↔
      unit.IsFirstAvailable name (aliasCandidate name) (AliasCandidate.attemptLimit + 1)
          identifier ∧
        next = (unit.claimAlias identifier name).2 := by
  rw [newAlias, tryAlias_eq, isFirstAvailable_succ_iff]
  by_cases h : unit.isAvailable (AliasCandidate.ofPath name) name = true
  · rw [if_pos h, aliasCandidate, if_pos h]
    exact some_alias_eq_some_iff
  · rw [if_neg h, aliasCandidate, if_neg h]
    exact digestAlias_zero_eq_some_iff

/-! ### The ways to answer a reference -/

/-- The ways to answer a reference to `name`: what is granted, and the unit afterwards. -/
inductive Answers (unit : NamingUnit) (name : String) : Grant → NamingUnit → Prop
  /-- A declaration that no other one is written like needs no claim. -/
  | own (hlocal : unit.isLocal (Identifier.ofSimpleName name) = false)
      (hdeclared : unit.isTopLevel name = true)
      (hshared : unit.isSharedTopLevel (Identifier.ofSimpleName name) name = false) :
      Answers unit name (.bare (Identifier.ofSimpleName name)) unit
  /-- Any other name claims its identifier. -/
  | bare (hlocal : unit.isLocal (Identifier.ofSimpleName name) = false)
      (himported : unit.imported? (Identifier.ofSimpleName name) = some name ∨
        unit.imported? (Identifier.ofSimpleName name) = none ∧
          (unit.isTopLevel name = true ∨
            unit.isSharedTopLevel (Identifier.ofSimpleName name) name = false)) :
      Answers unit name (.bare (Identifier.ofSimpleName name))
        (unit.claim (Identifier.ofSimpleName name) name).2
  /-- An alias from an earlier reference. -/
  | remembered {identifier : String} (halias : unit.alias? name = some identifier)
      (havailable : unit.isAvailable identifier name = true)
      (hne : identifier ≠ Identifier.ofSimpleName name) :
      Answers unit name (.aliased identifier) unit
  /-- A new alias. -/
  | claimed {identifier : String} (havailable : unit.isAvailable identifier name = true)
      (hne : identifier ≠ Identifier.ofSimpleName name)
      (hcandidate : IsAliasCandidate name identifier) :
      Answers unit name (.aliased identifier) (unit.claimAlias identifier name).2
  /-- No identifier. -/
  | path : Answers unit name .path unit

/-- The shape of a grant decides whether its identifier is that of the name's last segment. -/
theorem Answers.grant_cases {grant : Grant} (h : Answers unit name grant next) :
    grant = .bare (Identifier.ofSimpleName name) ∨
      (∃ identifier, grant = .aliased identifier ∧ identifier ≠ Identifier.ofSimpleName name) ∨
        grant = .path := by
  cases h with
  | own | bare => exact Or.inl rfl
  | remembered _ _ hne | claimed _ hne => exact Or.inr (Or.inl ⟨_, rfl, hne⟩)
  | path => exact Or.inr (Or.inr rfl)

/-- How a bare identifier is granted. -/
theorem answers_of_bareName_some (h : unit.bareName name = (some identifier, next)) :
    Answers unit name (.bare identifier) next := by
  unfold bareName at h
  dsimp only at h
  split at h
  · simp at h
  rename_i hlocal
  have hlocal := Bool.eq_false_iff.mpr hlocal
  split at h
  · rename_i hdeclared
    split at h
    · -- a declaration that shares its identifier: the outcome of the claim decides
      have hclaim := claim_fst unit (Identifier.ofSimpleName name) name
      have hanswer := @Answers.bare unit name hlocal
      generalize unit.claim (Identifier.ofSimpleName name) name = outcome at h hclaim hanswer
      obtain ⟨granted, claimed⟩ := outcome
      cases granted with
      | false => simp at h
      | true =>
        obtain ⟨rfl, rfl⟩ : Identifier.ofSimpleName name = identifier ∧ claimed = next := by
          simpa using h
        exact hanswer ((hclaim.mp rfl).symm.imp_right fun hnone => ⟨hnone, Or.inl hdeclared⟩)
    · rename_i hshared
      obtain ⟨rfl, rfl⟩ : Identifier.ofSimpleName name = identifier ∧ unit = next := by
        simpa using h
      exact .own hlocal hdeclared (Bool.eq_false_iff.mpr hshared)
  · split at h
    · rename_i hnone
      split at h
      · simp at h
      · rename_i hshared
        obtain ⟨rfl, rfl⟩ : Identifier.ofSimpleName name = identifier ∧ _ = next := by
          simpa using h
        exact .bare hlocal (Or.inr ⟨hnone, Or.inr (Bool.eq_false_iff.mpr hshared)⟩)
    · rename_i owner howner
      split at h
      · rename_i howner'
        subst howner'
        obtain ⟨rfl, rfl⟩ : Identifier.ofSimpleName owner = identifier ∧ unit = next := by
          simpa using h
        have hanswer := Answers.bare hlocal (Or.inl howner)
        rwa [claim_of_imported _ _ _ howner] at hanswer
      · simp at h

/-- Why the bare identifier of a name cannot be written for it. -/
inductive RefusesBare (unit : NamingUnit) (name : String) : Prop
  /-- A live scope binds the identifier. -/
  | bound (h : unit.isLocal (Identifier.ofSimpleName name) = true)
  /-- It is claimed for another name. -/
  | taken {owner : String} (h : unit.imported? (Identifier.ofSimpleName name) = some owner)
      (hne : owner ≠ name)
  /-- It is free, but only for a declaration of the unit. -/
  | reserved (hforeign : unit.isTopLevel name = false)
      (hshared : unit.isSharedTopLevel (Identifier.ofSimpleName name) name = true)
      (hfree : unit.imported? (Identifier.ofSimpleName name) = none)

/-- Where the bare identifier is refused there is a reason, and nothing changes. -/
theorem eq_of_bareName_none (h : unit.bareName name = (none, next)) :
    next = unit ∧ RefusesBare unit name := by
  unfold bareName at h
  dsimp only at h
  split at h
  · rename_i hlocal
    exact ⟨(Prod.mk.inj h).2.symm, .bound hlocal⟩
  split at h
  · -- a declaration is refused only when another one has claimed the identifier
    split at h
    · cases himported : unit.imported? (Identifier.ofSimpleName name) with
      | none => simp [claim, himported] at h
      | some owner =>
        simp only [claim, himported, Prod.mk.injEq, ite_eq_right_iff, reduceCtorEq, imp_false,
          beq_iff_eq] at h
        exact ⟨h.2.symm, .taken himported h.1⟩
    · simp at h
  · rename_i hforeign
    have hforeign := Bool.eq_false_iff.mpr hforeign
    split at h
    · rename_i hfree
      split at h
      · rename_i hshared
        exact ⟨(Prod.mk.inj h).2.symm, .reserved hforeign hshared hfree⟩
      · simp at h
    · rename_i owner howner
      split at h
      · simp at h
      · rename_i hne
        exact ⟨(Prod.mk.inj h).2.symm, .taken howner hne⟩

/-- A refused bare identifier is not available as an alias either. -/
theorem RefusesBare.isAvailable_eq_false (h : RefusesBare unit name) :
    unit.isAvailable (Identifier.ofSimpleName name) name = false := by
  rw [Bool.eq_false_iff, ne_eq, isAvailable_iff]
  cases h with
  | bound h => simp [h]
  | taken h hne => simp [h, hne]
  | reserved _ hshared => simp [hshared]

/-- How an alias is granted, where the bare identifier is refused. -/
theorem answers_of_aliasName (hbare : RefusesBare unit name)
    (h : unit.aliasName name = some (identifier, next)) :
    Answers unit name (.aliased identifier) next := by
  -- an alias is available, and the bare identifier is not
  have hne {x : String} (hx : unit.isAvailable x name = true) :
      x ≠ Identifier.ofSimpleName name := by
    intro heq
    rw [heq, hbare.isAvailable_eq_false] at hx
    cases hx
  have hnew (h : unit.newAlias name = some (identifier, next)) :
      Answers unit name (.aliased identifier) next := by
    obtain ⟨hfirst, rfl⟩ := newAlias_eq_some_iff.mp h
    exact .claimed hfirst.isAvailable (hne hfirst.isAvailable) hfirst.isAliasCandidate
  unfold aliasName at h
  split at h
  · rename_i remembered halias
    split at h
    · rename_i havailable
      cases h
      exact .remembered halias havailable (hne havailable)
    · exact hnew h
  · exact hnew h

/-- **Every reference is answered in one of the listed ways**, and its record says which. -/
theorem answers_of_refer {aliasable : Bool} {reference : Reference}
    (h : unit.refer name aliasable = some (reference, next)) :
    reference.moment = unit ∧ reference.name = name ∧ Answers unit name reference.grant next := by
  unfold refer at h
  split at h
  · rename_i hbare
    cases h
    exact ⟨rfl, rfl, answers_of_bareName_some hbare⟩
  · rename_i refused hbare
    obtain ⟨rfl, hrefuses⟩ := eq_of_bareName_none hbare
    split at h
    · obtain ⟨⟨identifier, claimed⟩, halias, heq⟩ := Option.map_eq_some_iff.mp h
      cases heq
      exact ⟨rfl, rfl, answers_of_aliasName hrefuses halias⟩
    · cases h
      exact ⟨rfl, rfl, .path⟩

/-- A reference gets the bare identifier of its name, or there is a reason to refuse it. -/
theorem bare_or_refusesBare_of_refer {aliasable : Bool} {reference : Reference}
    (h : unit.refer name aliasable = some (reference, next)) :
    reference.grant = .bare (Identifier.ofSimpleName name) ∨ RefusesBare unit name := by
  unfold refer at h
  split at h
  · rename_i identifier claimed hbare
    rcases (answers_of_bareName_some hbare).grant_cases with hgrant | ⟨_, hgrant, -⟩ | hgrant
    · obtain ⟨rfl, -⟩ := Prod.mk.inj (Option.some.inj h)
      exact Or.inl hgrant
    · cases hgrant
    · cases hgrant
  · rename_i hbare
    exact Or.inr (eq_of_bareName_none hbare).2

end Nomenclator.NamingUnit
