import Nomenclator.NamingUnit.Run
import Nomenclator.Proofs.NamingUnit.Reference

/-!
# Steps as sequences of moves

The steps of a writer are many, but few things happen to the unit: a name is declared, a scope is
entered or left, a local name is bound, an identifier is claimed directly, or a reference is made.
`Move` lists these, `Step.moves` takes a step apart into them, and `performAll` performs a sequence
and keeps the record of its references.

`step_eq_performAll` says that nothing is lost: a writing step ends in the unit in which its moves
end, and its answer is read off the references that they make (`Step.answer`). For all steps, the
direct claims and the declarations included, the unit is that of the moves (`map_snd_step`).

The references of a sequence of moves are those that the moves ask for, in order
(`meets_of_performAll`).
-/

namespace Nomenclator.NamingUnit

open Interop (MethodNames)

variable {settings : Settings} {unit next last : NamingUnit}

/-- What happens to a unit, one thing at a time. -/
inductive Move where
  | declareTopLevel (name : String)
  | enterScope
  | exitScope
  | bindLocal (name : String)
  | claim (identifier name : String)
  | claimAlias (identifier name : String)
  | refer (name : String) (aliasable : Bool)

/-- Writing consists of references and changes of scope. Nothing is declared or claimed directly. -/
def Move.isWriting : Move → Bool
  | .enterScope | .exitScope | .bindLocal _ | .refer _ _ => true
  | .declareTopLevel _ | .claim _ _ | .claimAlias _ _ => false

/-- Performs a move and gives the references that it makes, at most one. -/
def perform (unit : NamingUnit) : Move → Option (List Reference × NamingUnit)
  | .declareTopLevel name => some ([], unit.declareTopLevel name)
  | .enterScope => some ([], unit.enterScope)
  | .exitScope => some ([], unit.exitScope)
  | .bindLocal name => some ([], unit.bindLocal name)
  | .claim identifier name => some ([], (unit.claim identifier name).2)
  | .claimAlias identifier name => some ([], (unit.claimAlias identifier name).2)
  | .refer name aliasable =>
    (unit.refer name aliasable).map fun (reference, next) => ([reference], next)

/-- Performs moves one after the other and gives the references that they make, in order. -/
def performAll (unit : NamingUnit) : List Move → Option (List Reference × NamingUnit)
  | [] => some ([], unit)
  | first :: rest =>
    (unit.perform first).bind fun (made, next) =>
      (next.performAll rest).map fun (madeLater, last) => (made ++ madeLater, last)

/-! ### Sequences of moves -/

theorem performAll_cons_eq_some_iff {first : Move} {rest : List Move} {made : List Reference} :
    unit.performAll (first :: rest) = some (made, last) ↔
      ∃ early next later, unit.perform first = some (early, next) ∧
        next.performAll rest = some (later, last) ∧ made = early ++ later := by
  simp only [performAll, Option.bind_eq_some_iff, Option.map_eq_some_iff, Prod.exists,
    Prod.mk.injEq]
  constructor
  · rintro ⟨early, next, hfirst, later, last, hrest, rfl, rfl⟩
    exact ⟨early, next, later, hfirst, hrest, rfl⟩
  · rintro ⟨early, next, later, hfirst, hrest, rfl⟩
    exact ⟨early, next, hfirst, later, last, hrest, rfl, rfl⟩

theorem performAll_append (first rest : List Move) :
    unit.performAll (first ++ rest) =
      (unit.performAll first).bind fun (made, next) =>
        (next.performAll rest).map fun (madeLater, last) => (made ++ madeLater, last) := by
  induction first generalizing unit with
  | nil => cases h : unit.performAll rest <;> simp [performAll, h]
  | cons move first ih =>
    rw [List.cons_append, performAll, performAll, Option.bind_assoc]
    refine congrArg _ (funext fun ⟨made, next⟩ => ?_)
    dsimp only
    rw [ih, Option.map_bind, Option.bind_map]
    refine congrArg _ (funext fun ⟨made', next'⟩ => ?_)
    cases h : next'.performAll rest <;> simp [h]

theorem performAll_append_eq_some_iff {first rest : List Move} {made : List Reference} :
    unit.performAll (first ++ rest) = some (made, last) ↔
      ∃ early next later, unit.performAll first = some (early, next) ∧
        next.performAll rest = some (later, last) ∧ made = early ++ later := by
  simp only [performAll_append, Option.bind_eq_some_iff, Option.map_eq_some_iff, Prod.exists,
    Prod.mk.injEq]
  constructor
  · rintro ⟨early, next, hfirst, later, last, hrest, rfl, rfl⟩
    exact ⟨early, next, later, hfirst, hrest, rfl⟩
  · rintro ⟨early, next, later, hfirst, hrest, rfl⟩
    exact ⟨early, next, hfirst, later, last, hrest, rfl, rfl⟩

/-- A move makes no reference, or it is one. -/
theorem made_of_perform {move : Move} {made : List Reference}
    (h : unit.perform move = some (made, next)) :
    made = [] ∨ ∃ name aliasable reference, move = .refer name aliasable ∧ made = [reference] ∧
      reference.moment = unit ∧ unit.refer name aliasable = some (reference, next) := by
  cases move with
  | refer name aliasable =>
    obtain ⟨⟨reference, claimed⟩, hrefer, heq⟩ := Option.map_eq_some_iff.mp h
    obtain ⟨rfl, rfl⟩ := Prod.mk.inj heq
    exact Or.inr ⟨name, aliasable, reference, rfl, rfl, (answers_of_refer hrefer).1, hrefer⟩
  | declareTopLevel | enterScope | exitScope | bindLocal | claim | claimAlias =>
    exact Or.inl (Prod.mk.inj (Option.some.inj h)).1.symm

/-- The name that a move refers to, and whether an alias may be claimed for it. -/
def Move.request? : Move → Option (String × Bool)
  | .refer name aliasable => some (name, aliasable)
  | _ => none

/-- A reference is what was asked for: it has the name, and an identifier if it may be an alias. -/
def Reference.Meets (reference : Reference) (request : String × Bool) : Prop :=
  reference.name = request.1 ∧ (request.2 = true → reference.identifier?.isSome = true)

/-- With aliases allowed, a reference gets an identifier. -/
theorem meets_of_refer {name : String} {aliasable : Bool} {reference : Reference}
    (h : unit.refer name aliasable = some (reference, next)) :
    reference.Meets (name, aliasable) := by
  refine ⟨(answers_of_refer h).2.1, ?_⟩
  rintro rfl
  rw [refer] at h
  split at h
  · obtain ⟨rfl, -⟩ := Prod.mk.inj (Option.some.inj h)
    rfl
  · rw [if_pos rfl, Option.map_eq_some_iff] at h
    obtain ⟨⟨identifier, claimed⟩, -, heq⟩ := h
    obtain ⟨rfl, -⟩ := Prod.mk.inj heq
    rfl

/-- **Moves make the references that they ask for.** -/
theorem meets_of_performAll {moves : List Move} {made : List Reference}
    (h : unit.performAll moves = some (made, last)) :
    List.Forall₂ Reference.Meets made (moves.filterMap Move.request?) := by
  induction moves generalizing unit made with
  | nil =>
    obtain ⟨rfl, -⟩ := Prod.mk.inj (Option.some.inj h)
    exact .nil
  | cons move rest ih =>
    obtain ⟨early, next, later, hmove, hrest, rfl⟩ := performAll_cons_eq_some_iff.mp h
    cases move with
    | refer name aliasable =>
      obtain ⟨⟨reference, claimed⟩, hrefer, heq⟩ := Option.map_eq_some_iff.mp hmove
      obtain ⟨rfl, rfl⟩ := Prod.mk.inj heq
      exact .cons (meets_of_refer hrefer) (ih hrest)
    | declareTopLevel | enterScope | exitScope | bindLocal | claim | claimAlias =>
      obtain ⟨rfl, -⟩ := Prod.mk.inj (Option.some.inj hmove)
      exact ih hrest

/-- **A record can be split at any of its references**: some of the moves end at the moment of the
reference, and the others go on from there. -/
theorem exists_split_of_performAll {moves : List Move} {early later : List Reference}
    {reference : Reference}
    (h : unit.performAll moves = some (early ++ reference :: later, last)) :
    ∃ before name aliasable after next, moves = before ++ .refer name aliasable :: after ∧
      unit.performAll before = some (early, reference.moment) ∧
      reference.moment.refer name aliasable = some (reference, next) ∧
      next.performAll after = some (later, last) := by
  induction moves generalizing unit early with
  | nil => simp [performAll] at h
  | cons move rest ih =>
    obtain ⟨made, mid, madeLater, hmove, hrest, hmade⟩ := performAll_cons_eq_some_iff.mp h
    -- either this move makes the reference, or the rest of the moves does
    rcases made_of_perform hmove with rfl | ⟨name, aliasable, made, rfl, rfl, hmoment, hrefer⟩
    · obtain rfl : early ++ reference :: later = madeLater := hmade
      obtain ⟨before, name, aliasable, after, next, rfl, hbefore, hafter⟩ := ih hrest
      exact ⟨move :: before, name, aliasable, after, next, rfl,
        performAll_cons_eq_some_iff.mpr ⟨[], mid, early, hmove, hbefore, rfl⟩, hafter⟩
    · cases early with
      | nil =>
        obtain ⟨rfl, rfl⟩ := List.cons.inj hmade
        subst hmoment
        exact ⟨[], name, aliasable, rest, mid, rfl, rfl, hrefer, hrest⟩
      | cons first early =>
        obtain ⟨rfl, rfl⟩ := List.cons.inj hmade
        obtain ⟨before, name', aliasable', after, next, rfl, hbefore, hafter⟩ := ih hrest
        exact ⟨.refer name aliasable :: before, name', aliasable', after, next, rfl,
          performAll_cons_eq_some_iff.mpr ⟨[first], mid, early, hmove, hbefore, rfl⟩, hafter⟩

/-! ### What steps are made of -/

/-- The steps that writing consists of. Nothing is declared or claimed directly. -/
def Step.isWriting : Step → Bool
  | .declareTopLevel _ | .claim _ _ | .claimAlias _ _ => false
  | _ => true

/-- The moves of a step, in order. -/
def Step.moves (settings : Settings) : Step → List Move
  | .declareTopLevel name => [.declareTopLevel name]
  | .enterScope => [.enterScope]
  | .exitScope => [.exitScope]
  | .bindLocal name => [.bindLocal name]
  | .claim identifier name => [.claim identifier name]
  | .claimAlias identifier name => [.claimAlias identifier name]
  | .resolve name | .writeName name | .writeExtensionMember name => [.refer name true]
  | .bareName name | .writeBareOrPath name => [.refer name false]
  | .annotateFile =>
    [.refer settings.annotations.optIn false, .refer settings.annotations.experimentalMarker false]
  | .annotateName _ _ | .annotateParameter _ => [.refer settings.annotations.interopName false]
  | .annotateType declaration =>
    if declaration.isAnnotated then [.refer settings.annotations.interopName false] else []
  | .annotateField field =>
    if field.isAnnotated then [.refer settings.annotations.interopName false] else []
  | .annotateMethod method names? =>
    if !method.isConstructor && (names?.bind MethodNames.methodName?).isSome then
      [.refer settings.annotations.interopName false]
    else []

/-- The steps that do nothing to the unit but refer to names. -/
def Step.isReferring : Step → Bool
  | .declareTopLevel _ | .enterScope | .exitScope | .bindLocal _ | .claim _ _
  | .claimAlias _ _ => false
  | _ => true

/-- The moves of a referring step are references. -/
theorem exists_refer_of_mem_moves {step : Step} (hstep : step.isReferring = true) {move : Move}
    (hmove : move ∈ step.moves settings) : ∃ name aliasable, move = .refer name aliasable := by
  cases step with
  | declareTopLevel | enterScope | exitScope | bindLocal | claim | claimAlias => cases hstep
  | annotateType | annotateField | annotateMethod =>
    rw [Step.moves] at hmove
    split at hmove
    · exact ⟨_, _, List.mem_singleton.mp hmove⟩
    · cases hmove
  | annotateFile =>
    rcases List.mem_cons.mp hmove with rfl | hmove
    · exact ⟨_, _, rfl⟩
    · exact ⟨_, _, List.mem_singleton.mp hmove⟩
  | _ => exact ⟨_, _, List.mem_singleton.mp hmove⟩

/-- The moves of writing steps are writing moves. -/
theorem isWriting_of_mem_moves {steps : List Step} (hsteps : ∀ step ∈ steps, step.isWriting = true)
    {move : Move} (hmove : move ∈ steps.flatMap (Step.moves settings)) :
    move.isWriting = true := by
  obtain ⟨step, hstep, hmove⟩ := List.mem_flatMap.mp hmove
  have hwriting := hsteps step hstep
  by_cases hreferring : step.isReferring = true
  · obtain ⟨_, _, rfl⟩ := exists_refer_of_mem_moves hreferring hmove
    rfl
  · cases step with
    | declareTopLevel | claim | claimAlias => cases hwriting
    | enterScope | exitScope | bindLocal =>
      obtain rfl := List.mem_singleton.mp hmove
      rfl
    | _ => exact absurd rfl hreferring

/-- The answer to a step, from the references that it makes. -/
def Step.answer (settings : Settings) (step : Step) (made : List Reference) : Answer :=
  match step, made with
  | .resolve _, [reference] => .identifier reference.text
  | .bareName _, [reference] => .bareIdentifier? reference.identifier?
  | .writeName _, [reference] | .writeExtensionMember _, [reference]
  | .writeBareOrPath _, [reference] => .snippet (.ofText reference.text)
  | .annotateFile, [optInClass, markerClass] =>
    .snippet (Interop.Annotations.fileSnippet (.ofText optInClass.text) (.ofText markerClass.text))
  | .annotateName name exactness?, [nameClass] =>
    .snippet (Interop.Annotations.nameSnippet (.ofText nameClass.text) name exactness?)
  | .annotateType declaration, [nameClass] =>
    .snippet (Interop.Annotations.nameSnippet (.ofText nameClass.text)
      (Interop.typeName settings false declaration) (some true))
  | .annotateField field, [nameClass] =>
    .snippet (Interop.Annotations.nameSnippet (.ofText nameClass.text)
      (Interop.fieldName field.name) (some false))
  | .annotateMethod _ names?, [nameClass] =>
    .snippet (Interop.Annotations.nameSnippet (.ofText nameClass.text)
      ((names?.bind MethodNames.methodName?).getD "") (some false))
  | .annotateParameter label, [nameClass] =>
    .snippet (Interop.Annotations.nameSnippet (.ofText nameClass.text) label none)
  | .annotateType _, [] | .annotateField _, [] | .annotateMethod _ _, [] => .snippet .empty
  | _, _ => .done

/-- The references that a run makes, in order. -/
def references (settings : Settings) (unit : NamingUnit) (steps : List Step) : List Reference :=
  ((unit.performAll (steps.flatMap (Step.moves settings))).map Prod.fst).getD []

/-! ### The primitive operations as references -/

/-- The record of a reference that takes no alias. -/
def bareReference (unit : NamingUnit) (name : String) : Reference :=
  ⟨unit, name, (unit.bareName name).1.elim .path .bare⟩

theorem refer_false (name : String) :
    unit.refer name false = some (unit.bareReference name, (unit.bareName name).2) := by
  unfold refer bareReference
  rcases unit.bareName name with ⟨_ | identifier, claimed⟩ <;> rfl

theorem identifier?_bareReference (name : String) :
    (unit.bareReference name).identifier? = (unit.bareName name).1 := by
  unfold bareReference
  rcases unit.bareName name with ⟨_ | identifier, claimed⟩ <;> rfl

theorem bareOrPath_eq (name : String) :
    unit.bareOrPath name =
      (.ofText (unit.bareReference name).text, (unit.bareName name).2) := by
  unfold bareOrPath bareReference
  rcases unit.bareName name with ⟨_ | identifier, claimed⟩ <;> rfl

theorem resolve_eq (name : String) :
    unit.resolve name =
      (unit.refer name true).map fun (reference, next) => (reference.text, next) := by
  unfold resolve refer
  rcases unit.bareName name with ⟨_ | identifier, claimed⟩
  · simp only [if_true, Option.map_map]
    rcases claimed.aliasName name with _ | ⟨identifier, claimed⟩ <;> rfl
  · rfl

/-! ### Steps and runs as moves -/

private theorem performAll_refer_false (name : String) :
    unit.performAll [.refer name false] =
      some ([unit.bareReference name], (unit.bareName name).2) := by
  simp [performAll, perform, refer_false]

private theorem performAll_refer_true (name : String) :
    unit.performAll [.refer name true] =
      (unit.refer name true).map fun (reference, next) => ([reference], next) := by
  simp [performAll, perform]

private theorem withName_eq (name : String) (exactness? : Option Bool) :
    Interop.Annotations.withName settings name exactness? unit =
      (Interop.Annotations.nameSnippet
        (.ofText (unit.bareReference settings.annotations.interopName).text) name exactness?,
        (unit.bareName settings.annotations.interopName).2) := by
  rw [Interop.Annotations.withName, bareOrPath_eq]

/-- **A writing step is its moves**: it ends in the unit in which they end, and the references that
they make determine its answer. -/
theorem step_eq_performAll {step : Step} (hstep : step.isWriting = true) :
    unit.step settings step =
      (unit.performAll (step.moves settings)).map fun (made, next) =>
        (step.answer settings made, next) := by
  cases step with
  | declareTopLevel | claim | claimAlias => cases hstep
  | enterScope | exitScope | bindLocal => rfl
  | resolve name | writeName name | writeExtensionMember name =>
    rw [NamingUnit.step, resolve_eq, Step.moves, performAll_refer_true]
    cases unit.refer name true <;> rfl
  | bareName name =>
    simp only [NamingUnit.step, Step.moves, performAll_refer_false, Option.map_some, Step.answer,
      identifier?_bareReference]
    rfl
  | writeBareOrPath name =>
    rw [NamingUnit.step, bareOrPath_eq, Step.moves, performAll_refer_false]
    rfl
  | annotateFile =>
    rw [NamingUnit.step, Interop.Annotations.optIn, bareOrPath_eq, Step.moves]
    simp only [bareOrPath_eq, performAll, perform, refer_false, Option.map_some, Option.bind_some]
    rfl
  | annotateName name exactness? =>
    rw [NamingUnit.step, withName_eq, Step.moves, performAll_refer_false]
    rfl
  | annotateParameter label =>
    rw [NamingUnit.step, Interop.Annotations.forParameter, withName_eq, Step.moves,
      performAll_refer_false]
    rfl
  | annotateType declaration =>
    rw [NamingUnit.step, Interop.Annotations.forType, withName_eq, Step.moves]
    split
    · rw [performAll_refer_false]
      rfl
    · rfl
  | annotateField field =>
    rw [NamingUnit.step, Interop.Annotations.forField, withName_eq, Step.moves]
    split
    · rw [performAll_refer_false]
      rfl
    · rfl
  | annotateMethod method names? =>
    rw [NamingUnit.step, Interop.Annotations.forMethod, Step.moves]
    cases method.isConstructor with
    | true => rfl
    | false =>
      cases hname : names?.bind MethodNames.methodName? with
      | none => rfl
      | some name =>
        simp only [Bool.false_eq_true, if_false, Bool.not_false, Option.isSome_some, Bool.and_self,
          if_true, withName_eq, performAll_refer_false, Option.map_some, Step.answer, hname]
        rfl

/-- Every step ends in the unit in which its moves end. -/
theorem map_snd_step (step : Step) :
    (unit.step settings step).map Prod.snd =
      (unit.performAll (step.moves settings)).map Prod.snd := by
  by_cases hstep : step.isWriting = true
  · rw [step_eq_performAll hstep, Option.map_map]
    rfl
  · cases step with
    | declareTopLevel | claim | claimAlias => rfl
    | _ => exact absurd rfl hstep

end Nomenclator.NamingUnit
