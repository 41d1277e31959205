import Nomenclator.Proofs.NamingUnit.Ownership

/-!
# Later answers repeat earlier ones

At two moments of writing a unit that bind the same local names, a name is referred to in the same
way (`resolve_again`). In between, other names may take identifiers and the name itself may get
further aliases in other scopes, so this is not a matter of looking up an earlier answer. What
carries it is that every reason of the first search persists. A candidate that was refused is
refused again, because claims are never taken back, and the one that was granted is claimed for the
name by then.
-/

namespace Nomenclator.NamingUnit

variable {settings : Settings} {start unit next later : NamingUnit} {name identifier : String}

/-! ### Candidates -/

/-- An identifier that is not available for a name does not become available. -/
theorem isAvailable_eq_false_mono (hprecedes : Precedes unit later)
    (hlocals : ∀ x, later.isLocal x = unit.isLocal x)
    (h : unit.isAvailable identifier name = false) :
    later.isAvailable identifier name = false := by
  rw [Bool.eq_false_iff, ne_eq, isAvailable_iff] at h ⊢
  rintro ⟨hlocal, hshared, himported⟩
  rw [hlocals] at hlocal
  rw [hprecedes.isSharedTopLevel_eq] at hshared
  refine h ⟨hlocal, hshared, ?_⟩
  cases howner : unit.imported? identifier with
  | none => exact Or.inl rfl
  | some owner =>
    rw [hprecedes.imported howner] at himported
    exact Or.inr (himported.resolve_left (by simp))

/-- An available identifier stays available for the name for which it is claimed. -/
theorem isAvailable_mono (hprecedes : Precedes unit later)
    (hlocals : ∀ x, later.isLocal x = unit.isLocal x)
    (himported : later.imported? identifier = some name)
    (h : unit.isAvailable identifier name = true) : later.isAvailable identifier name = true := by
  obtain ⟨hlocal, hshared, -⟩ := isAvailable_iff.mp h
  rw [← hlocals] at hlocal
  rw [← hprecedes.isSharedTopLevel_eq] at hshared
  exact isAvailable_iff.mpr ⟨hlocal, hshared, Or.inr himported⟩

/-- The first available candidate stays the first one when it is claimed for the name. -/
theorem IsFirstAvailable.mono {candidates : ℕ → String} {bound : ℕ}
    (hprecedes : Precedes unit later) (hlocals : ∀ x, later.isLocal x = unit.isLocal x)
    (himported : later.imported? identifier = some name)
    (h : unit.IsFirstAvailable name candidates bound identifier) :
    later.IsFirstAvailable name candidates bound identifier := by
  obtain ⟨k, hk, hcandidate, havailable, hrefused⟩ := h
  refine ⟨k, hk, hcandidate, isAvailable_mono hprecedes hlocals himported havailable, ?_⟩
  intro j hj
  exact isAvailable_eq_false_mono hprecedes hlocals (hrefused j hj)

/-! ### Aliases -/

/-- An alias that is granted is claimed for its name afterwards, and its name has an alias. -/
theorem claimAlias_of_isAvailable (h : unit.isAvailable identifier name = true) :
    (unit.claimAlias identifier name).2.imported? identifier = some name ∧
      (unit.claimAlias identifier name).2.alias? name =
        some ((unit.alias? name).getD identifier) := by
  constructor
  · rw [imported?_claimAlias]
    exact imported?_claim_self (isAvailable_iff.mp h).2.2.symm
  · rw [claimAlias_snd, if_pos (claim_fst_of_isAvailable h), alias?_rememberAlias, alias?_claim]
    cases unit.alias? name <;> simp

/-- An alias that is claimed for a name with an alias is granted without a trace. -/
theorem claimAlias_of_imported {remembered : String}
    (himported : unit.imported? identifier = some name)
    (halias : unit.alias? name = some remembered) :
    (unit.claimAlias identifier name).2 = unit := by
  rw [claimAlias_snd, claim_of_imported _ _ _ himported, if_pos rfl]
  exact rememberAlias_of_alias _ _ _ halias

/-- A search for a new alias gives the same alias again. -/
theorem newAlias_again (h : unit.newAlias name = some (identifier, next))
    (hprecedes : Precedes next later) (hlocals : ∀ x, later.isLocal x = unit.isLocal x) :
    later.newAlias name = some (identifier, later) := by
  obtain ⟨hfirst, rfl⟩ := newAlias_eq_some_iff.mp h
  obtain ⟨himported, halias⟩ := claimAlias_of_isAvailable hfirst.isAvailable
  have hprecedes' := (precedes_claimAlias unit identifier name).trans hprecedes
  -- the candidates before it are refused again, and it is claimed for the name by now
  refine newAlias_eq_some_iff.mpr
    ⟨hfirst.mono hprecedes' hlocals (hprecedes.imported himported), ?_⟩
  exact (claimAlias_of_imported (hprecedes.imported himported) (hprecedes.remembered halias)).symm

/-- A name that was given an alias is given the same alias again. -/
theorem aliasName_again (hunit : Consistent unit)
    (h : unit.aliasName name = some (identifier, next)) (hstep : Precedes unit next)
    (hprecedes : Precedes next later) (hlocals : ∀ x, later.isLocal x = unit.isLocal x) :
    later.aliasName name = some (identifier, later) := by
  have hprecedes' := hstep.trans hprecedes
  unfold aliasName at h
  split at h
  · rename_i remembered halias
    have hlater := hprecedes'.remembered halias
    split at h
    · rename_i havailable
      obtain ⟨rfl, rfl⟩ := Prod.mk.inj (Option.some.inj h)
      have himported := hprecedes.imported (hunit.imported_of_alias halias)
      simp [aliasName, hlater, isAvailable_mono hprecedes hlocals himported havailable]
    · rename_i hrefused
      have hrefused' :=
        isAvailable_eq_false_mono hprecedes' hlocals (Bool.eq_false_iff.mpr hrefused)
      simpa [aliasName, hlater, hrefused'] using newAlias_again h hprecedes hlocals
  · rename_i hnone
    obtain ⟨hfirst, rfl⟩ := newAlias_eq_some_iff.mp h
    -- the first alias of the name is the one that it remembers
    obtain ⟨himported, halias⟩ := claimAlias_of_isAvailable hfirst.isAvailable
    rw [hnone, Option.getD_none] at halias
    have havailable' :=
      isAvailable_mono hprecedes' hlocals (hprecedes.imported himported) hfirst.isAvailable
    simp [aliasName, hprecedes.remembered halias, havailable']

/-! ### References -/

/-- **A bare identifier is granted or refused again.** -/
theorem bareName_again (hunit : Consistent unit) (hlater : Consistent later)
    {granted : Option String} (h : unit.bareName name = (granted, next))
    (hprecedes : Precedes next later)
    (hlocals : ∀ x, later.isLocal x = unit.isLocal x) :
    later.bareName name = (granted, later) := by
  cases granted with
  | none =>
    obtain ⟨rfl, hrefuses⟩ := eq_of_bareName_none h
    exact bareName_of_refusesBare hlater (hrefuses.mono hlater hprecedes hlocals)
  | some identifier =>
    -- the name owns its identifier from the first answer on
    have hanswers := answers_of_bareName_some h
    have howns := (hanswers.owns hunit rfl).mono (hanswers.consistent hunit) hlater hprecedes
    have hlocal := (hlocals identifier).trans (hanswers.isLocal_eq_false rfl)
    rcases hanswers.grant_cases with hgrant | ⟨_, hgrant, -⟩ | hgrant
    · rw [Grant.bare.inj hgrant] at howns hlocal ⊢
      exact bareName_of_owns hlater howns hlocal
    · cases hgrant
    · cases hgrant

/-- **A name is resolved in the same way again**, and nothing changes. -/
theorem resolve_again (hunit : Consistent unit) (hlater : Consistent later)
    (h : unit.resolve name = some (identifier, next)) (hprecedes : Precedes next later)
    (hlocals : ∀ x, later.isLocal x = unit.isLocal x) :
    later.resolve name = some (identifier, later) := by
  unfold resolve at h
  split at h
  · rename_i hbare
    obtain ⟨rfl, rfl⟩ := Prod.mk.inj (Option.some.inj h)
    rw [resolve, bareName_again hunit hlater hbare hprecedes hlocals]
  · rename_i refused hbare
    obtain ⟨rfl, hrefuses⟩ := eq_of_bareName_none hbare
    have hstep := (answers_of_aliasName hrefuses h).precedes.1
    rw [resolve, bareName_again hunit hlater hbare (hstep.trans hprecedes) hlocals]
    exact aliasName_again hunit h hstep hprecedes hlocals

/-- **Stability of references.** Let a unit whose names are declared be written up to some moment,
let a name be referred to there, and let any further steps follow. When the same local names are
bound again, the same reference gets the same answer, and the unit stays as it is. -/
theorem stable_of_same_locals (hstart : Prepared start) {before between : List Step}
    (hbefore : ∀ step ∈ before, step.isWriting = true)
    (hbetween : ∀ step ∈ between, step.isWriting = true) {answers moreAnswers : List Answer}
    (hrun : start.run settings before = some (answers, unit))
    (hfurther : next.run settings between = some (moreAnswers, later))
    (hlocals : ∀ x, later.isLocal x = unit.isLocal x) (name : String) :
    (∀ identifier, unit.resolve name = some (identifier, next) →
      later.resolve name = some (identifier, later)) ∧
    ∀ granted, unit.bareName name = (granted, next) → later.bareName name = (granted, later) := by
  have hunit := (Written.of_run hstart hbefore hrun).consistent
  have hmoves := performAll_of_run hfurther
  have hprecedes : Precedes next later :=
    precedes_of_performAll (fun _ => isWriting_of_mem_moves hbetween) hmoves
  have hlater (hnext : Consistent next) : Consistent later :=
    consistent_of_performAll (fun _ => isWriting_of_mem_moves hbetween) hmoves hnext
  constructor
  · intro identifier hresolve
    exact resolve_again hunit (hlater (hunit.resolve hresolve)) hresolve hprecedes hlocals
  · intro granted hbare
    have hnext := hunit.bareName name
    rw [hbare] at hnext
    exact bareName_again hunit (hlater hnext) hbare hprecedes hlocals

/-- A name that is written with an alias gets the same alias after a scope that binds the alias, in
which it was written with another one. -/
theorem stable_of_same_locals_sockets :
    let start := (ofLabel "net/Sockets.kt").declareTopLevels ["app.Main"]
    let before := [Step.resolve "java.Socket", .enterScope]
    let between := [Step.enterScope, .bindLocal "net_Socket", .writeName "net.Socket", .exitScope,
      .resolve "web.Socket"]
    ∃ answers unit next moreAnswers later,
      start.run .default before = some (answers, unit) ∧
        unit.resolve "net.Socket" = some ("net_Socket", next) ∧
        next.run .default between = some (moreAnswers, later) ∧ later ≠ next ∧
        later.resolve "net.Socket" = some ("net_Socket", later) := by
  intro start before between
  have hcompletes : ((start.run .default before).bind fun result =>
      (result.2.resolve "net.Socket").bind fun granted =>
        (granted.2.run .default between).map fun last =>
          decide (granted.1 = "net_Socket" ∧ last.2.scopes = result.2.scopes ∧
            last.2 ≠ granted.2)) =
      some true := by
    decide +kernel
  obtain ⟨⟨answers, unit⟩, hrun, hcompletes⟩ := Option.bind_eq_some_iff.mp hcompletes
  obtain ⟨⟨identifier, next⟩, hresolve, hcompletes⟩ := Option.bind_eq_some_iff.mp hcompletes
  obtain ⟨⟨moreAnswers, later⟩, hfurther, hcompletes⟩ := Option.map_eq_some_iff.mp hcompletes
  obtain ⟨rfl, hscopes, hne⟩ : identifier = "net_Socket" ∧ later.scopes = unit.scopes ∧
      later ≠ next := of_decide_eq_true hcompletes
  refine ⟨answers, unit, next, moreAnswers, later, hrun, hresolve, hfurther, hne, ?_⟩
  have hlocals (x : String) : later.isLocal x = unit.isLocal x := by
    rw [isLocal, isLocal, hscopes]
  have hstable := stable_of_same_locals ((Prepared.ofLabel _).declareTopLevels _) (by decide)
    (by decide) hrun hfurther hlocals "net.Socket"
  exact hstable.1 "net_Socket" hresolve

end Nomenclator.NamingUnit
