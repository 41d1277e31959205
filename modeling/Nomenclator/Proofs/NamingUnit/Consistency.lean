import Nomenclator.Proofs.NamingUnit.DeclarationIndex
import Nomenclator.Proofs.NamingUnit.Monotonicity

/-!
# What holds of a unit at every moment of writing it

Two invariants carry the theory of references. `Consistent` is about the unit alone: the index of
the declarations is exact, an identifier that a declaration is written with is claimed for such a
declaration only, and every remembered alias is claimed. `Accounts` ties the unit to the record of
its references: every claim has been handed out, and everything that was handed out is claimed or is
the identifier of a declaration that no other one is written like.

The last case is the reason why the second invariant needs the first. A declaration that needs no
claim leaves no trace when it is referenced, and only the index keeps its identifier from others.

Both hold before the first reference (`Prepared`) and are preserved by every way to answer one, so
they hold at the end of every run (`consistent_of_performAll`, `accounts_of_performAll`). `Written`
is the state of a unit after a run from a prepared one, which is where the main results start from.
-/

namespace Nomenclator.NamingUnit

variable {unit next last : NamingUnit} {name identifier : String} {grant : Grant}

/-! ### Before the first reference -/

/-- A unit before its first reference: names are declared and scopes change, in any order. -/
inductive Prepared : NamingUnit → Prop
  | ofLabel (label : String) : Prepared (ofLabel label)
  | declareTopLevel {unit : NamingUnit} (h : Prepared unit) (name : String) :
      Prepared (unit.declareTopLevel name)
  | enterScope {unit : NamingUnit} (h : Prepared unit) : Prepared unit.enterScope
  | exitScope {unit : NamingUnit} (h : Prepared unit) : Prepared unit.exitScope
  | bindLocal {unit : NamingUnit} (h : Prepared unit) (name : String) :
      Prepared (unit.bindLocal name)

/-- A unit is prepared when all its names are declared at the start. -/
theorem Prepared.declareTopLevels (h : Prepared unit) (names : List String) :
    Prepared (unit.declareTopLevels names) := by
  induction names generalizing unit with
  | nil => exact h
  | cons name rest ih => exact ih (h.declareTopLevel name)

/-- Nothing is claimed or remembered before the first reference. -/
theorem Prepared.unclaimed (h : Prepared unit) :
    (∀ identifier, unit.imported? identifier = none) ∧ ∀ name, unit.alias? name = none := by
  induction h with
  | ofLabel label => exact ⟨fun _ => rfl, fun _ => rfl⟩
  | declareTopLevel _ _ ih | enterScope _ ih | exitScope _ ih => exact ih
  | @bindLocal unit _ name ih =>
    obtain ⟨scopes, heq⟩ := exists_bindLocal_eq unit name
    rw [heq]
    exact ih

/-! ### Consistency -/

/-- The claims respect the declarations, and the remembered aliases are claimed. -/
structure Consistent (unit : NamingUnit) : Prop where
  /-- The index of the declarations is exact. -/
  mem_topLevelsWritten_iff : ∀ {identifier name}, name ∈ unit.topLevelsWritten identifier ↔
    unit.isTopLevel name = true ∧ Identifier.ofSimpleName name = identifier
  /-- An identifier of a declaration is claimed for such declarations only. -/
  written_of_imported : ∀ {identifier owner declared}, unit.imported? identifier = some owner →
    declared ∈ unit.topLevelsWritten identifier → owner ∈ unit.topLevelsWritten identifier
  /-- A remembered alias is claimed for its name. -/
  imported_of_alias : ∀ {name identifier}, unit.alias? name = some identifier →
    unit.imported? identifier = some name

theorem Consistent.aliasesClaimed (h : Consistent unit) : AliasesClaimed unit :=
  fun _ _ => h.imported_of_alias

/-- A declaration is the only one that is written with an identifier. -/
def IsSoleDeclaration (unit : NamingUnit) (identifier name : String) : Prop :=
  ∀ other, other ∈ unit.topLevelsWritten identifier ↔ other = name

theorem Prepared.indexExact (h : Prepared unit) : IndexExact unit := by
  induction h with
  | ofLabel label => exact indexExact_ofLabel label
  | declareTopLevel _ name ih => exact ih.declareTopLevel name
  | enterScope _ ih | exitScope _ ih => exact ⟨ih.mem_topLevelsWritten_iff, ih.exists_mem⟩
  | @bindLocal unit _ name ih =>
    obtain ⟨scopes, heq⟩ := exists_bindLocal_eq unit name
    rw [heq]
    exact ⟨ih.mem_topLevelsWritten_iff, ih.exists_mem⟩

theorem Prepared.consistent (h : Prepared unit) : Consistent unit where
  mem_topLevelsWritten_iff := h.indexExact.mem_topLevelsWritten_iff
  written_of_imported himported := by
    rw [h.unclaimed.1] at himported
    cases himported
  imported_of_alias halias := by
    rw [h.unclaimed.2] at halias
    cases halias

/-- An unshared identifier of a declaration is written for that declaration alone. -/
theorem eq_of_not_shared (hshared : unit.isSharedTopLevel identifier name = false)
    {declared : String} (hdeclared : declared ∈ unit.topLevelsWritten identifier) :
    declared = name := by
  by_contra hne
  have hshared' := (isSharedTopLevel_iff unit identifier name).mpr ⟨declared, hdeclared, hne⟩
  rw [hshared] at hshared'
  cases hshared'

/-- A claim for a declaration under its own identifier, or under an identifier that no other
declaration is written with. -/
theorem Consistent.claim (h : Consistent unit)
    (hown : unit.imported? identifier = none → name ∈ unit.topLevelsWritten identifier ∨
      unit.isSharedTopLevel identifier name = false) :
    Consistent (unit.claim identifier name).2 := by
  obtain ⟨-, htopLevels, hindex, -⟩ := claim_frame unit identifier name
  have hwritten (x : String) :
      (unit.claim identifier name).2.topLevelsWritten x = unit.topLevelsWritten x := by
    rw [topLevelsWritten, hindex, topLevelsWritten]
  constructor
  · intro x n
    rw [hwritten, isTopLevel, htopLevels]
    exact h.mem_topLevelsWritten_iff
  · intro x owner declared himported hdeclared
    rw [hwritten] at hdeclared ⊢
    rw [imported?_claim] at himported
    -- the owner is the one of the new claim or of an old one
    split at himported
    · rename_i hfree
      obtain ⟨rfl, hnone⟩ := hfree
      obtain rfl := Option.some.inj himported
      rcases hown hnone with hname | hshared
      · exact hname
      · rwa [← eq_of_not_shared hshared hdeclared]
    · exact h.written_of_imported himported hdeclared
  · intro n x halias
    exact h.aliasesClaimed.claim identifier name n x halias

/-- Remembering an alias that is claimed. -/
theorem Consistent.rememberAlias (h : Consistent unit)
    (himported : unit.imported? identifier = some name) :
    Consistent (unit.rememberAlias identifier name) where
  mem_topLevelsWritten_iff := h.mem_topLevelsWritten_iff
  written_of_imported := h.written_of_imported
  imported_of_alias halias := h.aliasesClaimed.rememberAlias himported _ _ halias

/-- **Every way to answer a reference keeps the unit consistent.** -/
theorem Answers.consistent (hunit : Consistent unit) (h : Answers unit name grant next) :
    Consistent next := by
  cases h with
  | own | remembered | path => exact hunit
  | bare _ himported =>
    -- a claim that is made already changes nothing, so the identifier may be taken to be free
    refine hunit.claim fun hnone => ?_
    rcases himported with hsome | ⟨-, hdeclared | hshared⟩
    · rw [hnone] at hsome
      cases hsome
    · exact Or.inl (hunit.mem_topLevelsWritten_iff.mpr ⟨hdeclared, rfl⟩)
    · exact Or.inr hshared
  | claimed havailable =>
    obtain ⟨-, hshared, hfree⟩ := isAvailable_iff.mp havailable
    rw [claimAlias_snd, if_pos (claim_fst_of_isAvailable havailable)]
    exact (hunit.claim fun _ => Or.inr hshared).rememberAlias (imported?_claim_self hfree.symm)

/-- Resolving a name keeps the unit consistent. -/
theorem Consistent.resolve (hunit : Consistent unit)
    (h : unit.resolve name = some (identifier, next)) : Consistent next := by
  rw [resolve_eq] at h
  obtain ⟨⟨reference, claimed⟩, hrefer, heq⟩ := Option.map_eq_some_iff.mp h
  obtain ⟨-, rfl⟩ := Prod.mk.inj heq
  obtain ⟨rfl, rfl, hanswers⟩ := answers_of_refer hrefer
  exact hanswers.consistent hunit

/-- Asking for a bare identifier keeps the unit consistent. -/
theorem Consistent.bareName (hunit : Consistent unit) (name : String) :
    Consistent (unit.bareName name).2 := by
  obtain ⟨-, -, hanswers⟩ := answers_of_refer (@refer_false unit name)
  exact hanswers.consistent hunit

/-- Consistency is preserved by every run. -/
theorem consistent_of_performAll {moves : List Move}
    (hmoves : ∀ move ∈ moves, move.isWriting = true) {made : List Reference}
    (h : unit.performAll moves = some (made, last)) (hunit : Consistent unit) :
    Consistent last := by
  refine performAll_induction (P := fun _ later => Consistent later) ?_ ?_ hmoves h
    hunit
  · intro _ later scopes hlater
    exact ⟨hlater.mem_topLevelsWritten_iff, hlater.written_of_imported, hlater.imported_of_alias⟩
  · intro _ reference later hmoment hanswers
    exact hanswers.consistent hmoment

/-- Consistency is preserved by writing calls, whatever their settings, and it holds from the
declarations on. -/
theorem consistent_of_runCalls {start : NamingUnit} (hstart : Prepared start) {calls : List Call}
    (hcalls : ∀ call ∈ calls, call.step.isWriting = true) {answers : List Answer}
    (hrun : start.runCalls calls = some (answers, unit)) : Consistent unit := by
  refine runCalls_preserves_of_isWriting ?_ ?_ hcalls hrun hstart.consistent
  · intro _ _ hunit
    exact ⟨hunit.mem_topLevelsWritten_iff, hunit.written_of_imported, hunit.imported_of_alias⟩
  · intro _ _ _ _ hanswers hunit
    exact hanswers.consistent hunit

/-- The index of declarations stays exact, whatever is called. -/
theorem Prepared.indexExact_of_runCalls {start : NamingUnit} (hstart : Prepared start)
    {calls : List Call} {answers : List Answer}
    (hrun : start.runCalls calls = some (answers, unit)) : IndexExact unit :=
  runCalls_preserves (fun _ _ hchange => hchange.indexExact) hrun hstart.indexExact

/-! ### The account of a unit -/

/-- The claims of a unit against the record of its references. -/
structure Accounts (made : List Reference) (unit : NamingUnit) : Prop where
  /-- Every claim has been handed out. -/
  handed_out : ∀ {identifier owner}, unit.imported? identifier = some owner →
    ∃ reference ∈ made, reference.name = owner ∧ reference.identifier? = some identifier
  /-- Everything that was handed out is claimed, or belongs to its declaration alone. -/
  claimed_or_sole : ∀ {reference}, reference ∈ made → ∀ {identifier},
    reference.identifier? = some identifier → unit.imported? identifier = some reference.name ∨
      unit.IsSoleDeclaration identifier reference.name

/-- Nothing is handed out that a live scope binds. -/
theorem Answers.isLocal_eq_false (h : Answers unit name grant next)
    (hidentifier : grant.identifier? = some identifier) : unit.isLocal identifier = false := by
  cases h with
  | own hlocal | bare hlocal =>
    obtain rfl := Option.some.inj hidentifier
    exact hlocal
  | remembered _ havailable | claimed havailable =>
    obtain rfl := Option.some.inj hidentifier
    exact (isAvailable_iff.mp havailable).1
  | path => cases hidentifier

/-- What a reference claims, it hands out. -/
theorem Answers.handed_out (h : Answers unit name grant next) {owner : String}
    (himported : next.imported? identifier = some owner) :
    unit.imported? identifier = some owner ∨
      owner = name ∧ grant.identifier? = some identifier := by
  have hclaim {x : String} (hx : (unit.claim x name).2.imported? identifier = some owner) :
      unit.imported? identifier = some owner ∨ owner = name ∧ x = identifier := by
    rw [imported?_claim] at hx
    split at hx
    · rename_i hfree
      exact Or.inr ⟨(Option.some.inj hx).symm, hfree.1.symm⟩
    · exact Or.inl hx
  cases h with
  | own | remembered | path => exact Or.inl himported
  | bare =>
    exact (hclaim himported).imp_right fun ⟨howner, hx⟩ => ⟨howner, congrArg some hx⟩
  | claimed =>
    rw [imported?_claimAlias] at himported
    exact (hclaim himported).imp_right fun ⟨howner, hx⟩ => ⟨howner, congrArg some hx⟩

/-- What is handed out is claimed, or belongs to its declaration alone. -/
theorem Answers.claimed_or_sole (hunit : Consistent unit) (h : Answers unit name grant next)
    (hidentifier : grant.identifier? = some identifier) :
    next.imported? identifier = some name ∨ next.IsSoleDeclaration identifier name := by
  cases h with
  | own _ hdeclared hshared =>
    obtain rfl := Option.some.inj hidentifier
    refine Or.inr fun other => ⟨eq_of_not_shared hshared, ?_⟩
    intro hother
    rw [hother, hunit.mem_topLevelsWritten_iff]
    exact ⟨hdeclared, rfl⟩
  | bare _ himported =>
    obtain rfl := Option.some.inj hidentifier
    exact Or.inl (imported?_claim_self (himported.imp_right And.left))
  | remembered halias =>
    obtain rfl := Option.some.inj hidentifier
    exact Or.inl (hunit.imported_of_alias halias)
  | claimed havailable =>
    obtain rfl := Option.some.inj hidentifier
    rw [imported?_claimAlias]
    exact Or.inl (imported?_claim_self (isAvailable_iff.mp havailable).2.2.symm)
  | path => cases hidentifier

theorem Precedes.isSoleDeclaration (h : Precedes unit next)
    (hsole : unit.IsSoleDeclaration identifier name) : next.IsSoleDeclaration identifier name := by
  intro other
  rw [h.topLevelsWritten_eq]
  exact hsole other

/-- **The account of a unit stays right with every reference.** -/
theorem Answers.accounts {made : List Reference} {reference : Reference}
    (hunit : Consistent reference.moment) (haccounts : Accounts made reference.moment)
    (h : Answers reference.moment reference.name reference.grant next) :
    Accounts (made ++ [reference]) next where
  handed_out himported := by
    rcases h.handed_out himported with himported | ⟨howner, hidentifier⟩
    · obtain ⟨earlier, hmem, hearlier⟩ := haccounts.handed_out himported
      exact ⟨earlier, List.mem_append_left _ hmem, hearlier⟩
    · exact ⟨reference, List.mem_append_right _ List.mem_cons_self, howner.symm, hidentifier⟩
  claimed_or_sole hmem _ hidentifier := by
    rcases List.mem_append.mp hmem with hmem | hmem
    · exact (haccounts.claimed_or_sole hmem hidentifier).imp h.precedes.1.imported
        h.precedes.1.isSoleDeclaration
    · obtain rfl := List.mem_singleton.mp hmem
      exact h.claimed_or_sole hunit hidentifier

/-- The account is right after every run from a unit before its first reference. -/
theorem accounts_of_performAll {moves : List Move}
    (hmoves : ∀ move ∈ moves, move.isWriting = true) {made : List Reference}
    (h : unit.performAll moves = some (made, last)) (hunit : Prepared unit) :
    Accounts made last := by
  refine (performAll_induction (P := fun made later => Consistent later ∧ Accounts made later)
    ?_ ?_ hmoves h ⟨hunit.consistent, ?_⟩).2
  · rintro made later scopes ⟨hlater, haccounts⟩
    exact ⟨⟨hlater.mem_topLevelsWritten_iff, hlater.written_of_imported,
      hlater.imported_of_alias⟩, ⟨haccounts.handed_out, haccounts.claimed_or_sole⟩⟩
  · rintro made reference later ⟨hmoment, haccounts⟩ hanswers
    exact ⟨hanswers.consistent hmoment, hanswers.accounts hmoment haccounts⟩
  · constructor
    · intro identifier owner himported
      rw [hunit.unclaimed.1] at himported
      cases himported
    · intro reference hmem
      cases hmem

/-! ### Units that have been written -/

/-- A unit that has been written from a prepared one, with the record of its references. -/
structure Written (start : NamingUnit) (made : List Reference) (last : NamingUnit) : Prop where
  prepared : Prepared start
  performed : ∃ moves : List Move, (∀ move ∈ moves, move.isWriting = true) ∧
    start.performAll moves = some (made, last)

namespace Written

variable {start : NamingUnit} {made early later : List Reference} {reference : Reference}

/-- Writing goes on. -/
theorem run {settings : Settings} (h : Written start made unit) {steps : List Step}
    (hsteps : ∀ step ∈ steps, step.isWriting = true) {answers : List Answer}
    (hrun : unit.run settings steps = some (answers, last)) :
    Written start (made ++ unit.references settings steps) last := by
  obtain ⟨moves, hmoves, hmade⟩ := h.performed
  refine ⟨h.prepared, moves ++ steps.flatMap (Step.moves settings), ?_, ?_⟩
  · intro move hmove
    rcases List.mem_append.mp hmove with hmove | hmove
    · exact hmoves move hmove
    · exact isWriting_of_mem_moves hsteps hmove
  · exact performAll_append_eq_some_iff.mpr ⟨made, unit, _, hmade, performAll_of_run hrun, rfl⟩

/-- A unit is written by the steps after its declarations. -/
theorem of_run {settings : Settings} (hstart : Prepared start) {steps : List Step}
    (hsteps : ∀ step ∈ steps, step.isWriting = true) {answers : List Answer}
    (hrun : start.run settings steps = some (answers, last)) :
    Written start (start.references settings steps) last :=
  run ⟨hstart, [], by simp, rfl⟩ hsteps hrun

theorem consistent (h : Written start made unit) : Consistent unit := by
  obtain ⟨moves, hmoves, hmade⟩ := h.performed
  exact consistent_of_performAll hmoves hmade h.prepared.consistent

theorem accounts (h : Written start made unit) : Accounts made unit := by
  obtain ⟨moves, hmoves, hmade⟩ := h.performed
  exact accounts_of_performAll hmoves hmade h.prepared

theorem precedes (h : Written start made unit) : Precedes start unit := by
  obtain ⟨moves, hmoves, hmade⟩ := h.performed
  exact precedes_of_performAll hmoves hmade

/-- The unit as a reference found it has been written with the references before. -/
theorem split (h : Written start (early ++ reference :: later) last) :
    Written start early reference.moment ∧
      ∃ aliasable next,
        reference.moment.refer reference.name aliasable = some (reference, next) := by
  obtain ⟨moves, hmoves, hmade⟩ := h.performed
  obtain ⟨before, _, aliasable, after, next, rfl, hbefore, hrefer, -⟩ :=
    exists_split_of_performAll hmade
  obtain ⟨-, rfl, -⟩ := answers_of_refer hrefer
  have hmoves' (move : Move) (hmove : move ∈ before) := hmoves move (List.mem_append_left _ hmove)
  exact ⟨⟨h.prepared, before, hmoves', hbefore⟩, aliasable, next, hrefer⟩

/-- Every reference of the record was answered at its moment. -/
theorem answers_of_mem (h : Written start made last) (hmem : reference ∈ made) :
    ∃ next, Answers reference.moment reference.name reference.grant next := by
  obtain ⟨early, later, rfl⟩ := List.append_of_mem hmem
  obtain ⟨-, aliasable, next, hrefer⟩ := h.split
  exact ⟨next, (answers_of_refer hrefer).2.2⟩

/-- The declarations at the moment of a reference are those of the start. -/
theorem isTopLevel_moment (h : Written start made last) (hmem : reference ∈ made) (name : String) :
    reference.moment.isTopLevel name = start.isTopLevel name := by
  obtain ⟨early, later, rfl⟩ := List.append_of_mem hmem
  exact h.split.1.precedes.isTopLevel_eq name

/-- Nothing is handed out that a live scope binds. -/
theorem isLocal_eq_false (h : Written start made last) (hmem : reference ∈ made)
    (hidentifier : reference.identifier? = some identifier) :
    reference.moment.isLocal identifier = false := by
  obtain ⟨_, hanswers⟩ := h.answers_of_mem hmem
  exact hanswers.isLocal_eq_false hidentifier

end Written

end Nomenclator.NamingUnit
