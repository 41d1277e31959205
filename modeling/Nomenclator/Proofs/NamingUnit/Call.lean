import Nomenclator.Proofs.NamingUnit.Move

/-!
# Calls and their answers

A `Call` is any step with its settings, and `runCalls` performs calls one after the other. A run of
steps is the case of equal settings (`run_eq_runCalls`), so what is proved of calls holds of runs.

All calls end in the unit in which their moves end (`map_snd_runCalls`). The answers to writing
calls are determined by the references that the moves make: these fall into one group for each call,
a group consists of the references that its call asks for, and the answer to the call is read off
its group (`AnsweredBy`). So a statement about the references of a run is one about its answers
(`answeredBy_of_run`).
-/

namespace Nomenclator.NamingUnit

variable {settings : Settings} {unit next last : NamingUnit}

/-! ### Sequences of calls -/

/-- A step with the settings that it is performed with. -/
structure Call where
  settings : Settings
  step : Step

/-- Performs calls one after the other. -/
def runCalls (unit : NamingUnit) : List Call → Option (List Answer × NamingUnit)
  | [] => some ([], unit)
  | first :: rest => do
    let (answer, next) ← unit.step first.settings first.step
    let (answers, last) ← next.runCalls rest
    return (answer :: answers, last)

/-- A run is a sequence of calls with the same settings. -/
theorem run_eq_runCalls (settings : Settings) (steps : List Step) :
    unit.run settings steps = unit.runCalls (steps.map (Call.mk settings)) := by
  induction steps generalizing unit with
  | nil => rfl
  | cons step rest ih => simp only [run, runCalls, List.map_cons, ih]

theorem runCalls_cons_eq_some_iff {first : Call} {rest : List Call} {answers : List Answer} :
    unit.runCalls (first :: rest) = some (answers, last) ↔
      ∃ answer next later, unit.step first.settings first.step = some (answer, next) ∧
        next.runCalls rest = some (later, last) ∧ answers = answer :: later := by
  simp only [runCalls, Option.bind_eq_bind, Option.bind_eq_some_iff, Prod.exists,
    Option.pure_def, Option.some.injEq, Prod.mk.injEq]
  constructor
  · rintro ⟨answer, next, hfirst, later, last, hrest, rfl, rfl⟩
    exact ⟨answer, next, later, hfirst, hrest, rfl⟩
  · rintro ⟨answer, next, later, hfirst, hrest, rfl⟩
    exact ⟨answer, next, hfirst, later, last, hrest, rfl, rfl⟩

theorem runCalls_append_eq_some_iff {first rest : List Call} {answers : List Answer} :
    unit.runCalls (first ++ rest) = some (answers, last) ↔
      ∃ early next later, unit.runCalls first = some (early, next) ∧
        next.runCalls rest = some (later, last) ∧ answers = early ++ later := by
  induction first generalizing unit answers with
  | nil => simp [runCalls]
  | cons call first ih =>
    rw [List.cons_append]
    simp only [runCalls_cons_eq_some_iff, ih]
    constructor
    · rintro ⟨answer, next, _, hcall, ⟨early, middle, later, hfirst, hrest, rfl⟩, rfl⟩
      exact ⟨_, middle, later, ⟨answer, next, early, hcall, hfirst, rfl⟩, hrest, rfl⟩
    · rintro ⟨_, middle, later, ⟨answer, next, early, hcall, hfirst, rfl⟩, hrest, rfl⟩
      exact ⟨answer, next, _, hcall, ⟨early, middle, later, hfirst, hrest, rfl⟩, rfl⟩

/-- **The induction over calls.** What each of the calls preserves holds after all of them. -/
theorem runCalls_induction {P : NamingUnit → Prop} {calls : List Call}
    (hcalls : ∀ call ∈ calls, ∀ unit answer next,
      unit.step call.settings call.step = some (answer, next) → P unit → P next)
    {answers : List Answer} (h : unit.runCalls calls = some (answers, last)) (hunit : P unit) :
    P last := by
  induction calls generalizing unit answers with
  | nil =>
    obtain ⟨-, rfl⟩ := Prod.mk.inj (Option.some.inj h)
    exact hunit
  | cons first rest ih =>
    rw [List.forall_mem_cons] at hcalls
    obtain ⟨answer, next, later, hfirst, hrest, -⟩ := runCalls_cons_eq_some_iff.mp h
    exact ih hcalls.2 hrest (hcalls.1 unit answer next hfirst hunit)

/-! ### Calls as moves -/

/-- The moves of a call, in order. -/
def Call.moves (call : Call) : List Move :=
  call.step.moves call.settings

/-- A step ends where its moves end. -/
theorem exists_performAll_of_step {step : Step} {answer : Answer}
    (h : unit.step settings step = some (answer, next)) :
    ∃ made, unit.performAll (step.moves settings) = some (made, next) := by
  have hmoves : (unit.step settings step).map Prod.snd = _ := map_snd_step step
  rw [h, Option.map_some, eq_comm, Option.map_eq_some_iff] at hmoves
  obtain ⟨⟨made, next⟩, hmoves, rfl⟩ := hmoves
  exact ⟨made, hmoves⟩

private theorem map_snd_runCalls_cons (first : Call) (rest : List Call) :
    (unit.runCalls (first :: rest)).map Prod.snd =
      ((unit.step first.settings first.step).map Prod.snd).bind fun next =>
        (next.runCalls rest).map Prod.snd := by
  rw [runCalls]
  rcases unit.step first.settings first.step with _ | ⟨answer, next⟩
  · rfl
  · cases h : next.runCalls rest <;> simp [h]

private theorem map_snd_performAll_append (first rest : List Move) :
    (unit.performAll (first ++ rest)).map Prod.snd =
      ((unit.performAll first).map Prod.snd).bind fun next =>
        (next.performAll rest).map Prod.snd := by
  rw [performAll_append]
  rcases unit.performAll first with _ | ⟨made, next⟩
  · rfl
  · cases h : next.performAll rest <;> simp [h]

/-- **All calls end in the unit in which their moves end.** -/
theorem map_snd_runCalls (calls : List Call) :
    (unit.runCalls calls).map Prod.snd =
      (unit.performAll (calls.flatMap Call.moves)).map Prod.snd := by
  induction calls generalizing unit with
  | nil => rfl
  | cons call rest ih =>
    rw [map_snd_runCalls_cons, List.flatMap_cons, map_snd_performAll_append, map_snd_step]
    exact congrArg _ (funext fun _ => ih)

/-- The moves of calls with the same settings. -/
theorem flatMap_moves_map_mk (settings : Settings) (steps : List Step) :
    (steps.map (Call.mk settings)).flatMap Call.moves = steps.flatMap (Step.moves settings) :=
  List.flatMap_map _ _ steps

/-- The moves of a run that has an outcome make its references. -/
theorem performAll_of_run {steps : List Step} {answers : List Answer}
    (h : unit.run settings steps = some (answers, last)) :
    unit.performAll (steps.flatMap (Step.moves settings)) =
      some (unit.references settings steps, last) := by
  have hmoves : (unit.runCalls (steps.map (Call.mk settings))).map Prod.snd = _ :=
    map_snd_runCalls _
  rw [← run_eq_runCalls, h, flatMap_moves_map_mk, Option.map_some, eq_comm,
    Option.map_eq_some_iff] at hmoves
  obtain ⟨⟨made, last⟩, hmoves, rfl⟩ := hmoves
  rw [references, hmoves]
  rfl

/-! ### Answers -/

/-- Calls are answered by references: these fall into one group for each call, which consists of the
references that the call asks for, and the answer to the call is read off its group. -/
inductive AnsweredBy : List Call → List Reference → List Answer → Prop
  | nil : AnsweredBy [] [] []
  | cons {call : Call} {rest : List Call} {made later : List Reference} {answers : List Answer}
      (hmade : List.Forall₂ Reference.Meets made (call.moves.filterMap Move.request?))
      (hlater : AnsweredBy rest later answers) :
      AnsweredBy (call :: rest) (made ++ later)
        (call.step.answer call.settings made :: answers)

/-- **Writing calls are answered by the references that their moves make.** -/
theorem answeredBy_of_runCalls {calls : List Call}
    (hcalls : ∀ call ∈ calls, call.step.isWriting = true) {answers : List Answer}
    (h : unit.runCalls calls = some (answers, last)) :
    ∃ made, unit.performAll (calls.flatMap Call.moves) = some (made, last) ∧
      AnsweredBy calls made answers := by
  induction calls generalizing unit answers with
  | nil =>
    obtain ⟨rfl, rfl⟩ := Prod.mk.inj (Option.some.inj h)
    exact ⟨[], rfl, .nil⟩
  | cons call rest ih =>
    rw [List.forall_mem_cons] at hcalls
    obtain ⟨answer, next, answers, hcall, hrest, rfl⟩ := runCalls_cons_eq_some_iff.mp h
    rw [step_eq_performAll hcalls.1, Option.map_eq_some_iff] at hcall
    obtain ⟨⟨made, next⟩, hmoves, heq⟩ := hcall
    obtain ⟨rfl, rfl⟩ := Prod.mk.inj heq
    obtain ⟨later, hlater, hanswers⟩ := ih hcalls.2 hrest
    refine ⟨made ++ later, ?_, .cons (meets_of_performAll hmoves) hanswers⟩
    rw [List.flatMap_cons]
    exact performAll_append_eq_some_iff.mpr ⟨made, next, later, hmoves, hlater, rfl⟩

/-- **The answers of a run are read off its references.** -/
theorem answeredBy_of_run {steps : List Step} (hsteps : ∀ step ∈ steps, step.isWriting = true)
    {answers : List Answer} (h : unit.run settings steps = some (answers, last)) :
    AnsweredBy (steps.map (Call.mk settings)) (unit.references settings steps) answers := by
  have hcalls : ∀ call ∈ steps.map (Call.mk settings), call.step.isWriting = true := by
    simpa using hsteps
  have hrun := h
  rw [run_eq_runCalls] at hrun
  obtain ⟨made, hmade, hanswers⟩ := answeredBy_of_runCalls hcalls hrun
  rw [flatMap_moves_map_mk, performAll_of_run h] at hmade
  obtain ⟨rfl, -⟩ := Prod.mk.inj (Option.some.inj hmade)
  exact hanswers

end Nomenclator.NamingUnit
