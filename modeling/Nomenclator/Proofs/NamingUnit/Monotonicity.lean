import Nomenclator.Proofs.NamingUnit.Change

/-!
# Claims are never taken back

Whatever is done to a unit, an identifier that is claimed stays claimed for the same name, and the
alias that is remembered for a name stays the same (`Change.grows`). Every remembered alias is
claimed for its name (`AliasesClaimed`): a name may be given several aliases, and each of them is
claimed before the first one is remembered.

A name that has claimed its bare identifier can rely on it (`resolve_of_imported`). Declarations may
come later and be written with the same identifier, so that another branch of the resolution is
taken, but every branch that could refuse the identifier looks at the claim first.
-/

namespace Nomenclator.NamingUnit

variable {unit next : NamingUnit} {name identifier : String}

/-! ### Growth -/

/-- **Each of the four changes keeps the claims and the remembered aliases.** -/
theorem Change.grows (h : Change unit next) : Grows unit next := by
  cases h with
  | scopes | declared => exact ⟨id, id⟩
  | claimed identifier name => exact grows_claim unit identifier name
  | aliased identifier name => exact grows_claimAlias unit identifier name

/-- Calls keep the claims and the remembered aliases. -/
theorem grows_of_runCalls {calls : List Call} {answers : List Answer}
    (h : unit.runCalls calls = some (answers, next)) : Grows unit next :=
  runCalls_preserves (P := Grows unit) (fun _ _ hchange hgrows => hgrows.trans hchange.grows) h
    (.refl unit)

/-! ### Claims and remembered aliases -/

/-- Every remembered alias is claimed for its name. -/
def AliasesClaimed (unit : NamingUnit) : Prop :=
  ∀ name identifier, unit.alias? name = some identifier → unit.imported? identifier = some name

/-- A claim leaves the remembered aliases claimed. -/
theorem AliasesClaimed.claim (h : AliasesClaimed unit) (identifier name : String) :
    AliasesClaimed (unit.claim identifier name).2 := by
  intro n x halias
  rw [alias?_claim] at halias
  exact imported?_claim_of_some _ _ _ (h n x halias)

/-- An alias may be remembered when it is claimed for the name. -/
theorem AliasesClaimed.rememberAlias (h : AliasesClaimed unit)
    (himported : unit.imported? identifier = some name) :
    AliasesClaimed (unit.rememberAlias identifier name) := by
  intro n x halias
  rw [alias?_rememberAlias] at halias
  split at halias
  · rename_i hfirst
    obtain ⟨rfl, -⟩ := hfirst
    rwa [← Option.some.inj halias]
  · exact h n x halias

/-- An identifier that is free or claimed for the name already is claimed for it afterwards. -/
theorem imported?_claim_self
    (h : unit.imported? identifier = some name ∨ unit.imported? identifier = none) :
    (unit.claim identifier name).2.imported? identifier = some name := by
  rw [imported?_claim]
  rcases h with hsome | hnone
  · rw [if_neg (by simp [hsome]), hsome]
  · rw [if_pos ⟨rfl, hnone⟩]

/-- **Each of the four changes leaves the remembered aliases claimed.** -/
theorem Change.aliasesClaimed (h : Change unit next) (hunit : AliasesClaimed unit) :
    AliasesClaimed next := by
  cases h with
  | scopes | declared => exact hunit
  | claimed identifier name => exact hunit.claim identifier name
  | aliased identifier name =>
    rw [claimAlias_snd]
    split
    · rename_i hgranted
      have hfree := (claim_fst unit identifier name).mp hgranted
      exact (hunit.claim identifier name).rememberAlias (imported?_claim_self hfree.symm)
    · exact hunit.claim identifier name

/-- A refused claim leaves no trace. -/
theorem claim_snd_of_refused (h : (unit.claim identifier name).1 = false) :
    (unit.claim identifier name).2 = unit := by
  unfold NamingUnit.claim at h ⊢
  split
  · rfl
  · rename_i hfree
    rw [hfree] at h
    cases h

/-- A refused alias leaves no trace. -/
theorem claimAlias_snd_of_refused (h : (unit.claimAlias identifier name).1 = false) :
    (unit.claimAlias identifier name).2 = unit := by
  rw [claimAlias_fst] at h
  rw [claimAlias_snd, if_neg (Bool.eq_false_iff.mp h)]
  exact claim_snd_of_refused h

/-! ### Names that have claimed their bare identifiers -/

/-- A name that has claimed its bare identifier gets it, and nothing changes. -/
theorem bareName_of_imported
    (himported : unit.imported? (Identifier.ofSimpleName name) = some name)
    (hlocal : unit.isLocal (Identifier.ofSimpleName name) = false) :
    unit.bareName name = (some (Identifier.ofSimpleName name), unit) := by
  simp [bareName, hlocal, himported, claim_of_imported]

/-- A name that has claimed its bare identifier resolves to it, and nothing changes. -/
theorem resolve_of_imported
    (himported : unit.imported? (Identifier.ofSimpleName name) = some name)
    (hlocal : unit.isLocal (Identifier.ofSimpleName name) = false) :
    unit.resolve name = some (Identifier.ofSimpleName name, unit) := by
  rw [resolve, bareName_of_imported himported hlocal]

/-- **Claims are never taken back.** Let any calls be made on a new unit. Whatever follows, the
claims and the remembered aliases are kept, and every remembered alias is claimed for its name. A
claim, plain or as an alias, is granted exactly when the identifier is free or claimed for the same
name already, and a refused one leaves no trace. A name that has claimed its bare identifier resolves
to it without a change whenever no live scope binds it, whatever has been declared since. -/
theorem claims_monotone {label : String} {calls : List Call} {answers : List Answer}
    (hrun : (ofLabel label).runCalls calls = some (answers, unit)) :
    (∀ further moreAnswers later, unit.runCalls further = some (moreAnswers, later) →
      Grows unit later) ∧
    (∀ name identifier, unit.alias? name = some identifier →
      unit.imported? identifier = some name) ∧
    (∀ identifier name,
      ((unit.claim identifier name).1 = true ↔
        unit.imported? identifier = none ∨ unit.imported? identifier = some name) ∧
      ((unit.claimAlias identifier name).1 = true ↔
        unit.imported? identifier = none ∨ unit.imported? identifier = some name) ∧
      ((unit.claim identifier name).1 = false → (unit.claim identifier name).2 = unit) ∧
      ((unit.claimAlias identifier name).1 = false →
        (unit.claimAlias identifier name).2 = unit)) ∧
    ∀ name, unit.imported? (Identifier.ofSimpleName name) = some name →
      ∀ further moreAnswers later, unit.runCalls further = some (moreAnswers, later) →
        later.isLocal (Identifier.ofSimpleName name) = false →
          later.resolve name = some (Identifier.ofSimpleName name, later) := by
  refine ⟨?_, ?_, ?_, ?_⟩
  · intro further moreAnswers later hfurther
    exact grows_of_runCalls hfurther
  · have hstart : AliasesClaimed (ofLabel label) := fun _ _ halias => by cases halias
    exact runCalls_preserves (fun _ _ hchange => hchange.aliasesClaimed) hrun hstart
  · intro identifier name
    refine ⟨claim_fst unit identifier name, ?_, claim_snd_of_refused, claimAlias_snd_of_refused⟩
    rw [claimAlias_fst]
    exact claim_fst unit identifier name
  · intro name himported further moreAnswers later hfurther hlocal
    have hgrows := grows_of_runCalls hfurther
    exact resolve_of_imported (hgrows.imported himported) hlocal

/-- A foreign name keeps its bare identifier after two names that are written alike, itself among
them, have been declared in the unit. -/
theorem claims_monotone_buttons :
    let calls := [Step.resolve "widget.Button", .claimAlias "gadget_Button" "gadget.Button",
      .enterScope, .bindLocal "Button"].map (Call.mk .default)
    let further := [Step.declareTopLevel "gadget.Button", .declareTopLevel "widget.Button",
      .claim "Button" "gadget.Button", .exitScope].map (Call.mk .default)
    ∃ answers unit moreAnswers later,
      (ofLabel "ui/Buttons.kt").runCalls calls = some (answers, unit) ∧
        unit.runCalls further = some (moreAnswers, later) ∧
        unit.imported? "gadget_Button" = some "gadget.Button" ∧ Grows unit later ∧
        later.isSharedTopLevel "Button" "widget.Button" = true ∧
        later.resolve "widget.Button" = some ("Button", later) := by
  intro calls further
  have hcompletes : (((ofLabel "ui/Buttons.kt").runCalls calls).bind fun result =>
      (result.2.runCalls further).map fun last =>
        decide (result.2.alias? "gadget.Button" = some "gadget_Button" ∧
          result.2.imported? (Identifier.ofSimpleName "widget.Button") = some "widget.Button" ∧
          last.2.isLocal (Identifier.ofSimpleName "widget.Button") = false ∧
          last.2.isSharedTopLevel "Button" "widget.Button" = true)) = some true := by
    decide +kernel
  obtain ⟨⟨answers, unit⟩, hrun, hcompletes⟩ := Option.bind_eq_some_iff.mp hcompletes
  obtain ⟨⟨moreAnswers, later⟩, hfurther, hcompletes⟩ := Option.map_eq_some_iff.mp hcompletes
  obtain ⟨halias, himported, hlocal, hshared⟩ := of_decide_eq_true hcompletes
  obtain ⟨hgrows, haliases, -, hresolves⟩ := claims_monotone hrun
  have hbare : Identifier.ofSimpleName "widget.Button" = "Button" := by decide +kernel
  have hresolve := hresolves _ himported further moreAnswers later hfurther hlocal
  rw [hbare] at hresolve
  exact ⟨answers, unit, moreAnswers, later, hrun, hfurther, haliases _ _ halias,
    hgrows _ _ _ hfurther, hshared, hresolve⟩

end Nomenclator.NamingUnit
