import Nomenclator.Proofs.NamingUnit.Growth

/-!
# Everything that can happen to a unit

Writing is not the only use of a unit. Names may be declared at any time, and identifiers may be
claimed directly. There are four things that happen to the unit, and `Change` lists them. Each move
is one of the four (`change_of_perform`), so what they preserve holds after all calls
(`runCalls_preserves`). A step that only refers to names leaves the scopes and the declarations
alone (`frame_of_isReferring`).
-/

namespace Nomenclator.NamingUnit

variable {settings : Settings} {unit next last : NamingUnit}

/-! ### The four changes -/

/-- The things that happen to a unit: its scopes change, a name is declared, or an identifier is
claimed, plainly or as an alias. -/
inductive Change (unit : NamingUnit) : NamingUnit → Prop
  | scopes (scopes : List (Std.ExtTreeSet String)) : Change unit { unit with scopes }
  | declared (name : String) : Change unit (unit.declareTopLevel name)
  | claimed (identifier name : String) : Change unit (unit.claim identifier name).2
  | aliased (identifier name : String) : Change unit (unit.claimAlias identifier name).2

/-- A reference claims an identifier or an alias, or it leaves the unit as it is. -/
theorem Answers.change {name : String} {grant : Grant} (h : Answers unit name grant next) :
    Change unit next := by
  cases h with
  | own | remembered | path => exact .scopes unit.scopes
  | bare => exact .claimed _ _
  | claimed => exact .aliased _ _

/-- A move is one of the four changes. -/
theorem change_of_perform {move : Move} {made : List Reference}
    (h : unit.perform move = some (made, next)) : Change unit next := by
  cases move with
  | declareTopLevel name =>
    obtain ⟨-, rfl⟩ := Prod.mk.inj (Option.some.inj h)
    exact .declared name
  | claim identifier name =>
    obtain ⟨-, rfl⟩ := Prod.mk.inj (Option.some.inj h)
    exact .claimed identifier name
  | claimAlias identifier name =>
    obtain ⟨-, rfl⟩ := Prod.mk.inj (Option.some.inj h)
    exact .aliased identifier name
  | enterScope | exitScope | bindLocal | refer =>
    rcases scopes_or_answers_of_perform rfl h with ⟨-, scopes, rfl⟩ | ⟨_, -, rfl, hanswers⟩
    · exact .scopes scopes
    · exact hanswers.change

/-! ### Steps -/

/-- What each move preserves holds after all of them. -/
theorem performAll_preserves {P : NamingUnit → Prop} {moves : List Move}
    (hmoves : ∀ move ∈ moves, ∀ unit made next,
      unit.perform move = some (made, next) → P unit → P next)
    {made : List Reference} (h : unit.performAll moves = some (made, last)) (hunit : P unit) :
    P last := by
  induction moves generalizing unit made with
  | nil =>
    obtain ⟨-, rfl⟩ := Prod.mk.inj (Option.some.inj h)
    exact hunit
  | cons move rest ih =>
    rw [List.forall_mem_cons] at hmoves
    obtain ⟨first, next, later, hmove, hrest, -⟩ := performAll_cons_eq_some_iff.mp h
    exact ih hmoves.2 hrest (hmoves.1 unit first next hmove hunit)

/-- **What the four changes preserve holds after all calls.** -/
theorem runCalls_preserves {P : NamingUnit → Prop}
    (hchange : ∀ unit next, Change unit next → P unit → P next) {calls : List Call}
    {answers : List Answer} (h : unit.runCalls calls = some (answers, last)) (hunit : P unit) :
    P last := by
  refine runCalls_induction (fun call _ unit answer next hstep hunit => ?_) h hunit
  obtain ⟨made, hmoves⟩ := exists_performAll_of_step hstep
  refine performAll_preserves (fun move _ unit made next hmove => ?_) hmoves hunit
  exact hchange unit next (change_of_perform hmove)

/-- **What changes of the scopes and all ways to answer a reference preserve holds after all writing
calls.** -/
theorem runCalls_preserves_of_isWriting {P : NamingUnit → Prop}
    (hscopes : ∀ unit scopes, P unit → P { unit with scopes })
    (hanswers : ∀ unit name grant next, Answers unit name grant next → P unit → P next)
    {calls : List Call} (hcalls : ∀ call ∈ calls, call.step.isWriting = true)
    {answers : List Answer} (h : unit.runCalls calls = some (answers, last)) (hunit : P unit) :
    P last := by
  refine runCalls_induction (fun call hmem unit answer next hstep hunit => ?_) h hunit
  obtain ⟨made, hmoves⟩ := exists_performAll_of_step hstep
  refine performAll_preserves (fun move hmove unit made next hperform hunit => ?_) hmoves hunit
  have hmove' : move ∈ [call.step].flatMap (Step.moves call.settings) := by
    rwa [List.flatMap_singleton]
  have hwriting : move.isWriting = true :=
    isWriting_of_mem_moves (List.forall_mem_singleton.mpr (hcalls call hmem)) hmove'
  rcases scopes_or_answers_of_perform hwriting hperform with
    ⟨-, scopes, rfl⟩ | ⟨reference, -, rfl, hreference⟩
  · exact hscopes unit scopes hunit
  · exact hanswers _ _ _ next hreference hunit

/-- A step that only refers to names leaves the scopes and the declarations alone. -/
theorem frame_of_isReferring {step : Step} (hstep : step.isReferring = true) {answer : Answer}
    (h : unit.step settings step = some (answer, next)) :
    Precedes unit next ∧ next.scopes = unit.scopes := by
  obtain ⟨made, hmoves⟩ := exists_performAll_of_step h
  refine performAll_preserves (P := fun later => Precedes unit later ∧ later.scopes = unit.scopes)
    ?_ hmoves ⟨.refl unit, rfl⟩
  rintro move hmem moment made later hmove ⟨hprecedes, hscopes⟩
  obtain ⟨name, aliasable, rfl⟩ := exists_refer_of_mem_moves hstep hmem
  obtain ⟨⟨reference, claimed⟩, hrefer, heq⟩ := Option.map_eq_some_iff.mp hmove
  obtain ⟨-, rfl⟩ := Prod.mk.inj heq
  obtain ⟨hprecedes', hscopes'⟩ := (answers_of_refer hrefer).2.2.precedes
  exact ⟨hprecedes.trans hprecedes', hscopes'.trans hscopes⟩

end Nomenclator.NamingUnit
