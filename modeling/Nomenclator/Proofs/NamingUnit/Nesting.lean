import Nomenclator.Proofs.NamingUnit.Monotonicity

/-!
# Scopes nest

A block of calls is `Balanced` when the scopes that it enters are those that it leaves, which is
decided by counting them (`balanced_iff`). Inside a scope such a block changes the innermost scope
at most and leaves the others as they are (`Balanced.scopes_eq_cons`), so a block that is performed
in a scope of its own leaves no trace in the scopes (`scopes_nest`). What it claims stays.

That the scope of its own is there matters. Outside all scopes a local name enters a scope that
nothing leaves, and leaving a scope does nothing.
-/

namespace Nomenclator.NamingUnit

variable {settings : Settings} {unit next last : NamingUnit}

/-! ### Balanced blocks -/

/-- The steps that enter or leave a scope. -/
def Step.isNesting : Step → Bool
  | .enterScope | .exitScope => true
  | _ => false

/-- A block in which each step that leaves a scope belongs to an earlier step that enters one, and
the other way round. -/
inductive Balanced : List Call → Prop
  | nil : Balanced []
  | cons {call : Call} {rest : List Call} (hcall : call.step.isNesting = false)
      (hrest : Balanced rest) : Balanced (call :: rest)
  /-- A scope, and what is done in it and after it. -/
  | scope (enter exit : Settings) {inner rest : List Call} (hinner : Balanced inner)
      (hrest : Balanced rest) :
      Balanced (⟨enter, .enterScope⟩ :: inner ++ ⟨exit, .exitScope⟩ :: rest)

/-- How many scopes are open after a block that starts with a number of open ones. A block that
leaves more scopes than that has no count. -/
def openScopes? : Nat → List Call → Option Nat
  | depth, [] => some depth
  | depth, call :: rest =>
    match call.step, depth with
    | .enterScope, depth => openScopes? (depth + 1) rest
    | .exitScope, 0 => none
    | .exitScope, depth + 1 => openScopes? depth rest
    | _, depth => openScopes? depth rest

/-- Only steps that enter or leave a scope are counted. -/
theorem openScopes?_cons {call : Call} (hcall : call.step.isNesting = false) (depth : Nat)
    (rest : List Call) : openScopes? depth (call :: rest) = openScopes? depth rest := by
  obtain ⟨settings, step⟩ := call
  cases step with
  | enterScope | exitScope => cases hcall
  | _ => rfl

/-- A balanced block leaves the count as it is. -/
theorem Balanced.openScopes?_append {block : List Call} (hblock : Balanced block) (depth : Nat)
    (rest : List Call) : openScopes? depth (block ++ rest) = openScopes? depth rest := by
  induction hblock generalizing depth rest with
  | nil => rfl
  | cons hcall _ ih => rw [List.cons_append, openScopes?_cons hcall, ih]
  | @scope enter exit inner after _ _ ihinner ihafter =>
    calc openScopes? depth (⟨enter, .enterScope⟩ :: inner ++ ⟨exit, .exitScope⟩ :: after ++ rest)
      _ = openScopes? (depth + 1) (inner ++ ⟨exit, .exitScope⟩ :: (after ++ rest)) := by
        simp [openScopes?]
      _ = openScopes? (depth + 1) (⟨exit, .exitScope⟩ :: (after ++ rest)) := ihinner _ _
      _ = openScopes? depth (after ++ rest) := rfl
      _ = openScopes? depth rest := ihafter depth rest

/-- A block that leaves a number of scopes which were entered before it, and is balanced but for
these. -/
def Closes : Nat → List Call → Prop
  | 0, block => Balanced block
  | depth + 1, block => ∃ inner exit rest,
      block = inner ++ ⟨exit, .exitScope⟩ :: rest ∧ Balanced inner ∧ Closes depth rest

/-- A step that is not counted may come first. -/
theorem Closes.cons {depth : Nat} {call : Call} {rest : List Call}
    (hcall : call.step.isNesting = false) (h : Closes depth rest) : Closes depth (call :: rest) := by
  cases depth with
  | zero => exact Balanced.cons hcall h
  | succ depth =>
    obtain ⟨inner, exit, after, rfl, hinner, hafter⟩ := h
    exact ⟨call :: inner, exit, after, rfl, .cons hcall hinner, hafter⟩

/-- A step that enters a scope takes up the first of the steps that leave one. -/
theorem Closes.enter {depth : Nat} {enter : Settings} {rest : List Call}
    (h : Closes (depth + 1) rest) : Closes depth (⟨enter, .enterScope⟩ :: rest) := by
  obtain ⟨inner, exit, after, rfl, hinner, hafter⟩ := h
  cases depth with
  | zero => exact Balanced.scope enter exit hinner hafter
  | succ depth =>
    obtain ⟨inner', exit', after', rfl, hinner', hafter'⟩ := hafter
    refine ⟨⟨enter, .enterScope⟩ :: inner ++ ⟨exit, .exitScope⟩ :: inner', exit', after', ?_, ?_,
      hafter'⟩
    · simp
    · exact .scope enter exit hinner hinner'

/-- A block that brings the count down to nothing leaves all scopes that were open. -/
theorem closes_of_openScopes? {depth : Nat} {block : List Call}
    (h : openScopes? depth block = some 0) : Closes depth block := by
  induction block generalizing depth with
  | nil =>
    obtain rfl := Option.some.inj h
    exact Balanced.nil
  | cons call rest ih =>
    by_cases hcall : call.step.isNesting = false
    · rw [openScopes?_cons hcall] at h
      exact (ih h).cons hcall
    · obtain ⟨settings, step⟩ := call
      cases step with
      | enterScope => exact (ih h).enter
      | exitScope =>
        cases depth with
        | zero => cases h
        | succ depth => exact ⟨[], settings, rest, rfl, .nil, ih h⟩
      | _ => exact absurd rfl hcall

/-- **A block is balanced when counting its scopes comes out even**: it never leaves a scope that it
has not entered, and in the end it has left them all. -/
theorem balanced_iff {block : List Call} : Balanced block ↔ openScopes? 0 block = some 0 := by
  constructor
  · intro hblock
    have happend := hblock.openScopes?_append 0 []
    rwa [List.append_nil] at happend
  · exact closes_of_openScopes?

instance (block : List Call) : Decidable (Balanced block) :=
  decidable_of_iff (openScopes? 0 block = some 0) balanced_iff.symm

/-! ### The innermost scope -/

/-- Inside a scope, a local name is bound in it. -/
theorem scopes_bindLocal {innermost : Std.ExtTreeSet String} {outer : List (Std.ExtTreeSet String)}
    (h : unit.scopes = innermost :: outer) (name : String) :
    (unit.bindLocal name).scopes = innermost.insert (Identifier.sanitize name) :: outer := by
  simp [bindLocal, h]

/-- Inside a scope, a step that neither enters nor leaves a scope changes that scope at most. -/
theorem scopes_eq_cons_of_step {step : Step} (hstep : step.isNesting = false) {answer : Answer}
    (h : unit.step settings step = some (answer, next)) {innermost : Std.ExtTreeSet String}
    {outer : List (Std.ExtTreeSet String)} (hscopes : unit.scopes = innermost :: outer) :
    ∃ innermost', next.scopes = innermost' :: outer := by
  by_cases hreferring : step.isReferring = true
  · have hframe := (frame_of_isReferring hreferring h).2
    exact ⟨innermost, hframe.trans hscopes⟩
  · cases step with
    | enterScope | exitScope => cases hstep
    | declareTopLevel name =>
      obtain ⟨-, rfl⟩ := Prod.mk.inj (Option.some.inj h)
      exact ⟨innermost, hscopes⟩
    | bindLocal name =>
      obtain ⟨-, rfl⟩ := Prod.mk.inj (Option.some.inj h)
      exact ⟨_, scopes_bindLocal hscopes name⟩
    | claim identifier name =>
      obtain ⟨-, rfl⟩ := Prod.mk.inj (Option.some.inj h)
      exact ⟨innermost, (claim_frame unit identifier name).1.trans hscopes⟩
    | claimAlias identifier name =>
      obtain ⟨-, rfl⟩ := Prod.mk.inj (Option.some.inj h)
      exact ⟨innermost, (claimAlias_frame unit identifier name).1.trans hscopes⟩
    | _ => exact absurd rfl hreferring

/-- A scope and what follows it: its block starts inside, and the rest starts when it is left. -/
theorem exists_of_runCalls_scope {enter exit : Settings} {inner rest : List Call}
    {answers : List Answer}
    (h : unit.runCalls (⟨enter, .enterScope⟩ :: inner ++ ⟨exit, .exitScope⟩ :: rest) =
      some (answers, last)) :
    ∃ early inside later, unit.enterScope.runCalls inner = some (early, inside) ∧
      inside.exitScope.runCalls rest = some (later, last) := by
  rw [List.cons_append] at h
  obtain ⟨_, entered, _, henter, h, -⟩ := runCalls_cons_eq_some_iff.mp h
  obtain ⟨early, inside, _, hinner, h, -⟩ := runCalls_append_eq_some_iff.mp h
  obtain ⟨_, left, later, hexit, hrest, -⟩ := runCalls_cons_eq_some_iff.mp h
  obtain ⟨-, rfl⟩ := Prod.mk.inj (Option.some.inj henter)
  obtain ⟨-, rfl⟩ := Prod.mk.inj (Option.some.inj hexit)
  exact ⟨early, inside, later, hinner, hrest⟩

/-- **Inside a scope, a balanced block changes that scope at most.** -/
theorem Balanced.scopes_eq_cons {block : List Call} (hblock : Balanced block)
    {answers : List Answer} (h : unit.runCalls block = some (answers, last))
    {innermost : Std.ExtTreeSet String} {outer : List (Std.ExtTreeSet String)}
    (hscopes : unit.scopes = innermost :: outer) :
    ∃ innermost', last.scopes = innermost' :: outer := by
  induction hblock generalizing unit last answers innermost outer with
  | nil =>
    obtain ⟨-, rfl⟩ := Prod.mk.inj (Option.some.inj h)
    exact ⟨innermost, hscopes⟩
  | cons hcall _ ih =>
    obtain ⟨answer, next, later, hfirst, hrest, -⟩ := runCalls_cons_eq_some_iff.mp h
    obtain ⟨innermost', hnext⟩ := scopes_eq_cons_of_step hcall hfirst hscopes
    exact ih hrest hnext
  | scope enter exit _ _ ihinner ihrest =>
    obtain ⟨_, inside, _, hinner, hrest⟩ := exists_of_runCalls_scope h
    -- the inner block starts in a scope of its own, above those that are there already
    have hentered : unit.enterScope.scopes = ∅ :: innermost :: outer := congrArg _ hscopes
    obtain ⟨_, hinside⟩ := ihinner hinner hentered
    have hleft : inside.exitScope.scopes = innermost :: outer := congrArg List.tail hinside
    exact ihrest hrest hleft

/-- **Scopes nest.** Whatever a balanced block does in a scope of its own, the scopes are the same
afterwards as before, and so are their number and the local names. The claims and the remembered
aliases from before are kept. -/
theorem scopes_nest (unit : NamingUnit) (enter exit : Settings) {block : List Call}
    (hblock : Balanced block) {answers : List Answer}
    (hrun : unit.runCalls (⟨enter, .enterScope⟩ :: block ++ [⟨exit, .exitScope⟩]) =
      some (answers, last)) :
    last.scopes = unit.scopes ∧ last.scopeDepth = unit.scopeDepth ∧
      (∀ identifier, last.isLocal identifier = unit.isLocal identifier) ∧ Grows unit last := by
  have hgrows := grows_of_runCalls hrun
  have hscopes : last.scopes = unit.scopes := by
    obtain ⟨_, inside, _, hinner, hrest⟩ := exists_of_runCalls_scope hrun
    obtain ⟨-, rfl⟩ := Prod.mk.inj (Option.some.inj hrest)
    have hentered : unit.enterScope.scopes = ∅ :: unit.scopes := rfl
    obtain ⟨_, hinside⟩ := hblock.scopes_eq_cons hinner hentered
    exact congrArg List.tail hinside
  refine ⟨hscopes, ?_, fun identifier => ?_, hgrows⟩
  · rw [scopeDepth, scopeDepth, hscopes]
  · rw [isLocal, isLocal, hscopes]

/-- A block that binds local names at two depths and makes claims leaves the one local name from
before, and the alias from before is claimed still. -/
theorem scopes_nest_buttons :
    let unit := (((ofLabel "ui/Buttons.kt").bindLocal "Button").claimAlias "gadget_Button"
      "gadget.Button").2
    let block := [Step.bindLocal "label", .enterScope, .bindLocal "Label",
      .writeName "widget.Label", .exitScope, .declareTopLevel "app.Main", .annotateFile,
      .resolve "widget.Button"].map (Call.mk .default)
    ∃ answers last,
      unit.runCalls (⟨.default, .enterScope⟩ :: block ++ [⟨.default, .exitScope⟩]) =
        some (answers, last) ∧
      last.imports ≠ unit.imports ∧ last.scopes = unit.scopes ∧ last.isLocal "Button" = true ∧
      last.isLocal "label" = false ∧ last.imported? "gadget_Button" = some "gadget.Button" := by
  intro unit block
  have hcompletes : (unit.runCalls
      (⟨.default, .enterScope⟩ :: block ++ [⟨.default, .exitScope⟩])).map (fun result =>
        decide (result.2.imports ≠ unit.imports ∧ unit.isLocal "Button" = true ∧
          unit.isLocal "label" = false ∧
          unit.imported? "gadget_Button" = some "gadget.Button")) = some true := by
    decide +kernel
  obtain ⟨⟨answers, last⟩, hrun, hcompletes⟩ := Option.map_eq_some_iff.mp hcompletes
  obtain ⟨hne, hbutton, hlabel, himported⟩ := of_decide_eq_true hcompletes
  have hblock : Balanced block := by decide
  obtain ⟨hscopes, -, hlocals, hgrows⟩ := scopes_nest unit .default .default hblock hrun
  exact ⟨answers, last, hrun, hne, hscopes, (hlocals _).trans hbutton, (hlocals _).trans hlabel,
    hgrows.imported himported⟩

end Nomenclator.NamingUnit
