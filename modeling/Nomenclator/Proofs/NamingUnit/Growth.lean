import Nomenclator.Proofs.NamingUnit.Call

/-!
# A unit only grows while it is written

Writing moves open and close scopes and make references, and nothing else happens to a unit
(`scopes_or_answers_of_perform`). `performAll_induction` turns this into the induction over runs:
what a change of scopes and each way to answer a reference preserve holds at the end of every run,
of the unit together with the record of its references.

`Grows` says that claims and remembered aliases are kept, which every move sees to. `Precedes` adds
that the declarations are the same, which holds between any two moments of a run
(`precedes_of_performAll`).
-/

namespace Nomenclator.NamingUnit

variable {unit next last earlier later : NamingUnit} {name identifier : String}

/-! ### What a writing move does -/

/-- A writing move changes the scopes only, or it is a reference. -/
theorem scopes_or_answers_of_perform {move : Move} {made : List Reference}
    (hmove : move.isWriting = true) (h : unit.perform move = some (made, next)) :
    (made = [] ∧ ∃ scopes, next = { unit with scopes }) ∨
      ∃ reference, made = [reference] ∧ reference.moment = unit ∧
        Answers unit reference.name reference.grant next := by
  cases move with
  | declareTopLevel | claim | claimAlias => cases hmove
  | enterScope | exitScope =>
    obtain ⟨rfl, rfl⟩ := Prod.mk.inj (Option.some.inj h)
    exact Or.inl ⟨rfl, _, rfl⟩
  | bindLocal name =>
    obtain ⟨rfl, rfl⟩ := Prod.mk.inj (Option.some.inj h)
    exact Or.inl ⟨rfl, exists_bindLocal_eq unit name⟩
  | refer name aliasable =>
    obtain ⟨⟨reference, claimed⟩, hrefer, heq⟩ := Option.map_eq_some_iff.mp h
    obtain ⟨rfl, rfl⟩ := Prod.mk.inj heq
    obtain ⟨hmoment, rfl, hanswers⟩ := answers_of_refer hrefer
    exact Or.inr ⟨reference, rfl, hmoment, hanswers⟩

/-- **The induction over runs.** What holds of a unit and a record, and is preserved by changes of
the scopes and by each way to answer a reference, holds after every run of writing moves. -/
theorem performAll_induction {P : List Reference → NamingUnit → Prop}
    (hscopes : ∀ made unit scopes, P made unit → P made { unit with scopes })
    (hanswers : ∀ made reference next,
      P made reference.moment → Answers reference.moment reference.name reference.grant next →
        P (made ++ [reference]) next)
    {moves : List Move} (hmoves : ∀ move ∈ moves, move.isWriting = true) {made : List Reference}
    (h : unit.performAll moves = some (made, last)) (hstart : P [] unit) : P made last := by
  -- the record so far has to be an arbitrary one for the induction on the moves
  suffices hsuffix : ∀ early, P early unit → P (early ++ made) last from hsuffix [] hstart
  clear hstart
  induction moves generalizing unit made with
  | nil =>
    intro early hstart
    obtain ⟨rfl, rfl⟩ := Prod.mk.inj (Option.some.inj h)
    rwa [List.append_nil]
  | cons move rest ih =>
    intro early hstart
    rw [List.forall_mem_cons] at hmoves
    obtain ⟨first, next, madeLater, hmove, hrest, rfl⟩ := performAll_cons_eq_some_iff.mp h
    rw [← List.append_assoc]
    refine ih hmoves.2 hrest _ ?_
    rcases scopes_or_answers_of_perform hmoves.1 hmove with
      ⟨rfl, scopes, rfl⟩ | ⟨reference, rfl, rfl, hreference⟩
    · rw [List.append_nil]
      exact hscopes early unit scopes hstart
    · exact hanswers early reference next hstart hreference

/-! ### Growth -/

/-- What is claimed stays claimed for the same name, and remembered aliases are kept. -/
structure Grows (earlier later : NamingUnit) : Prop where
  imported : ∀ {identifier owner}, earlier.imported? identifier = some owner →
    later.imported? identifier = some owner
  remembered : ∀ {name identifier}, earlier.alias? name = some identifier →
    later.alias? name = some identifier

theorem Grows.refl (unit : NamingUnit) : Grows unit unit :=
  ⟨id, id⟩

theorem Grows.trans (h : Grows unit next) (h' : Grows next last) : Grows unit last :=
  ⟨fun himported => h'.imported (h.imported himported),
    fun halias => h'.remembered (h.remembered halias)⟩

/-- A claim keeps what is claimed. -/
theorem grows_claim (unit : NamingUnit) (identifier name : String) :
    Grows unit (unit.claim identifier name).2 where
  imported himported := imported?_claim_of_some _ _ _ himported
  remembered halias := by
    rwa [alias?_claim]

/-- Remembering an alias keeps those that are remembered. -/
theorem grows_rememberAlias (unit : NamingUnit) (identifier name : String) :
    Grows unit (unit.rememberAlias identifier name) where
  imported himported := himported
  remembered halias := by
    rw [alias?_rememberAlias, if_neg, halias]
    rintro ⟨rfl, hnone⟩
    rw [halias] at hnone
    cases hnone

/-- Claiming an alias keeps what is claimed and remembered. -/
theorem grows_claimAlias (unit : NamingUnit) (identifier name : String) :
    Grows unit (unit.claimAlias identifier name).2 := by
  rw [claimAlias_snd]
  split
  · exact (grows_claim unit identifier name).trans (grows_rememberAlias _ identifier name)
  · exact grows_claim unit identifier name

/-! ### Moments of one run -/

/-- A unit at an earlier and at a later moment of writing it. -/
structure Precedes (earlier later : NamingUnit) : Prop extends Grows earlier later where
  topLevels_eq : later.topLevels = earlier.topLevels
  topLevelsByIdentifier_eq : later.topLevelsByIdentifier = earlier.topLevelsByIdentifier

theorem Precedes.refl (unit : NamingUnit) : Precedes unit unit :=
  ⟨.refl unit, rfl, rfl⟩

theorem Precedes.trans (h : Precedes unit next) (h' : Precedes next last) : Precedes unit last :=
  ⟨h.toGrows.trans h'.toGrows, h'.topLevels_eq.trans h.topLevels_eq,
    h'.topLevelsByIdentifier_eq.trans h.topLevelsByIdentifier_eq⟩

/-- The declarations are the same at both moments. -/
theorem Precedes.isTopLevel_eq (h : Precedes earlier later) (name : String) :
    later.isTopLevel name = earlier.isTopLevel name := by
  rw [isTopLevel, isTopLevel, h.topLevels_eq]

theorem Precedes.topLevelsWritten_eq (h : Precedes earlier later) (identifier : String) :
    later.topLevelsWritten identifier = earlier.topLevelsWritten identifier := by
  rw [topLevelsWritten, topLevelsWritten, h.topLevelsByIdentifier_eq]

theorem Precedes.isSharedTopLevel_eq (h : Precedes earlier later) (identifier name : String) :
    later.isSharedTopLevel identifier name = earlier.isSharedTopLevel identifier name := by
  rw [isSharedTopLevel, isSharedTopLevel, h.topLevelsWritten_eq]

/-- A claim leaves the declarations alone. -/
theorem precedes_claim (unit : NamingUnit) (identifier name : String) :
    Precedes unit (unit.claim identifier name).2 := by
  obtain ⟨-, htopLevels, hindex, -⟩ := claim_frame unit identifier name
  exact ⟨grows_claim unit identifier name, htopLevels, hindex⟩

/-- Claiming an alias leaves the declarations alone. -/
theorem precedes_claimAlias (unit : NamingUnit) (identifier name : String) :
    Precedes unit (unit.claimAlias identifier name).2 := by
  obtain ⟨-, htopLevels, hindex⟩ := claimAlias_frame unit identifier name
  exact ⟨grows_claimAlias unit identifier name, htopLevels, hindex⟩

/-- A reference leaves the scopes and the declarations alone, and the unit grows. -/
theorem Answers.precedes {grant : Grant} (h : Answers unit name grant next) :
    Precedes unit next ∧ next.scopes = unit.scopes := by
  cases h with
  | own | remembered | path => exact ⟨.refl unit, rfl⟩
  | bare => exact ⟨precedes_claim .., (claim_frame ..).1⟩
  | claimed => exact ⟨precedes_claimAlias .., (claimAlias_frame ..).1⟩

/-- Any two moments of writing a unit. -/
theorem precedes_of_performAll {moves : List Move} (hmoves : ∀ move ∈ moves, move.isWriting = true)
    {made : List Reference} (h : unit.performAll moves = some (made, last)) :
    Precedes unit last := by
  refine performAll_induction (P := fun _ later => Precedes unit later) ?_ ?_ hmoves h
    (.refl unit)
  · intro _ later scopes hlater
    exact ⟨⟨hlater.imported, hlater.remembered⟩, hlater.topLevels_eq,
      hlater.topLevelsByIdentifier_eq⟩
  · intro _ reference later hlater hanswers
    exact hlater.trans hanswers.precedes.1

end Nomenclator.NamingUnit
