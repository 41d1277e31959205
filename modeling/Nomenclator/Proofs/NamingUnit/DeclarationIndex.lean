import Nomenclator.Proofs.NamingUnit.Change

/-!
# The index of the declarations is exact

A unit keeps its declarations twice, as a set of names and by the identifiers that their last
segments become. The two agree in every state of a unit (`IndexExact`), although names that are
spelled differently may become the same identifier. An identifier is therefore shared exactly when
another declaration is written with it (`IndexExact.isSharedTopLevel_iff`).

An exact index is determined by the set of the declarations (`IndexExact.topLevelsByIdentifier_eq`),
and the set is that of all names that were ever declared (`isTopLevel_of_runCalls`). Neither the
order of the declarations nor their repetition leaves a trace in the unit.
-/

namespace Nomenclator.NamingUnit

variable {settings : Settings} {unit next other last : NamingUnit} {name identifier : String}

/-! ### Exactness -/

/-- The index has every declaration under its own identifier, and nothing else. -/
structure IndexExact (unit : NamingUnit) : Prop where
  mem_topLevelsWritten_iff : ∀ {identifier name}, name ∈ unit.topLevelsWritten identifier ↔
    unit.isTopLevel name = true ∧ Identifier.ofSimpleName name = identifier
  /-- No identifier is listed without a declaration. -/
  exists_mem : ∀ {identifier : String} {names : Std.ExtTreeSet String},
    unit.topLevelsByIdentifier[identifier]? = some names → ∃ name, name ∈ names

theorem indexExact_ofLabel (label : String) : IndexExact (ofLabel label) where
  mem_topLevelsWritten_iff := by simp [topLevelsWritten, ofLabel, isTopLevel]
  exists_mem h := by simp [ofLabel] at h

/-- One more declaration keeps the index exact. -/
theorem IndexExact.declareTopLevel (h : IndexExact unit) (declared : String) :
    IndexExact (unit.declareTopLevel declared) where
  mem_topLevelsWritten_iff {identifier name} := by
    rw [mem_topLevelsWritten_declareTopLevel, isTopLevel_declareTopLevel,
      h.mem_topLevelsWritten_iff]
    constructor
    · rintro (⟨hidentifier, rfl⟩ | ⟨hname, hwritten⟩)
      · exact ⟨Or.inl rfl, hidentifier.symm⟩
      · exact ⟨Or.inr hname, hwritten⟩
    · rintro ⟨rfl | hname, hwritten⟩
      · exact Or.inl ⟨hwritten.symm, rfl⟩
      · exact Or.inr ⟨hname, hwritten⟩
  exists_mem {identifier names} hnames := by
    simp only [NamingUnit.declareTopLevel, Std.ExtTreeMap.getElem?_insert] at hnames
    split at hnames
    · exact ⟨declared, by simp [← Option.some.inj hnames]⟩
    · exact h.exists_mem hnames

/-- **Each of the four changes keeps the index exact.** -/
theorem Change.indexExact (h : Change unit next) (hunit : IndexExact unit) : IndexExact next := by
  -- a change that leaves both containers alone
  have hkept (hprecedes : Precedes unit next) : IndexExact next := by
    constructor
    · intro identifier name
      rw [hprecedes.topLevelsWritten_eq, hprecedes.isTopLevel_eq]
      exact hunit.mem_topLevelsWritten_iff
    · intro identifier names hnames
      rw [hprecedes.topLevelsByIdentifier_eq] at hnames
      exact hunit.exists_mem hnames
  cases h with
  | scopes => exact ⟨hunit.mem_topLevelsWritten_iff, hunit.exists_mem⟩
  | declared name => exact hunit.declareTopLevel name
  | claimed identifier name => exact hkept (precedes_claim unit identifier name)
  | aliased identifier name => exact hkept (precedes_claimAlias unit identifier name)

/-- An identifier is shared when another declaration is written with it. -/
theorem IndexExact.isSharedTopLevel_iff (h : IndexExact unit) :
    unit.isSharedTopLevel identifier name = true ↔ ∃ declared, unit.isTopLevel declared = true ∧
      declared ≠ name ∧ Identifier.ofSimpleName declared = identifier := by
  rw [NamingUnit.isSharedTopLevel_iff]
  constructor
  · rintro ⟨declared, hwritten, hne⟩
    obtain ⟨hdeclared, hidentifier⟩ := h.mem_topLevelsWritten_iff.mp hwritten
    exact ⟨declared, hdeclared, hne, hidentifier⟩
  · rintro ⟨declared, hdeclared, hne, hidentifier⟩
    exact ⟨declared, h.mem_topLevelsWritten_iff.mpr ⟨hdeclared, hidentifier⟩, hne⟩

/-- An exact index lists an identifier with the declarations that are written with it, if there are
any. -/
theorem IndexExact.getElem?_eq_some_iff (h : IndexExact unit) {names : Std.ExtTreeSet String} :
    unit.topLevelsByIdentifier[identifier]? = some names ↔
      unit.topLevelsWritten identifier = names ∧ ∃ name, name ∈ names := by
  have hwritten : unit.topLevelsWritten identifier =
      unit.topLevelsByIdentifier[identifier]?.getD ∅ :=
    Std.ExtTreeMap.getD_eq_getD_getElem?
  constructor
  · intro hnames
    rw [hnames, Option.getD_some] at hwritten
    exact ⟨hwritten, h.exists_mem hnames⟩
  · rintro ⟨rfl, name, hname⟩
    cases hnames : unit.topLevelsByIdentifier[identifier]? with
    | none =>
      rw [hwritten, hnames, Option.getD_none] at hname
      exact absurd hname Std.ExtTreeSet.not_mem_empty
    | some names => rw [hwritten, hnames, Option.getD_some]

/-- The set of the declarations is determined by its members. -/
theorem topLevels_ext (h : ∀ name, unit.isTopLevel name = true ↔ other.isTopLevel name = true) :
    unit.topLevels = other.topLevels := by
  refine Std.ExtTreeSet.ext_mem fun name => ?_
  simpa [isTopLevel] using h name

/-- **An exact index is determined by the set of the declarations.** -/
theorem IndexExact.topLevelsByIdentifier_eq (hunit : IndexExact unit) (hother : IndexExact other)
    (htopLevels : unit.topLevels = other.topLevels) :
    unit.topLevelsByIdentifier = other.topLevelsByIdentifier := by
  refine Std.ExtTreeMap.ext_getElem? fun identifier => Option.ext fun names => ?_
  have hwritten : unit.topLevelsWritten identifier = other.topLevelsWritten identifier := by
    refine Std.ExtTreeSet.ext_mem fun name => ?_
    rw [hunit.mem_topLevelsWritten_iff, hother.mem_topLevelsWritten_iff, isTopLevel, isTopLevel,
      htopLevels]
  rw [hunit.getElem?_eq_some_iff, hother.getElem?_eq_some_iff, hwritten]

/-! ### The names that were declared -/

/-- One of the calls declares a name. -/
def Declares (calls : List Call) (name : String) : Prop :=
  ∃ call ∈ calls, call.step = .declareTopLevel name

/-- A step that declares no name leaves the declarations alone. -/
theorem topLevels_of_step {step : Step} {answer : Answer}
    (hstep : ∀ name, step ≠ .declareTopLevel name)
    (h : unit.step settings step = some (answer, next)) : next.topLevels = unit.topLevels := by
  by_cases hreferring : step.isReferring = true
  · exact (frame_of_isReferring hreferring h).1.topLevels_eq
  · cases step with
    | declareTopLevel name => exact absurd rfl (hstep name)
    | enterScope | exitScope =>
      obtain ⟨-, rfl⟩ := Prod.mk.inj (Option.some.inj h)
      rfl
    | bindLocal name =>
      obtain ⟨-, rfl⟩ := Prod.mk.inj (Option.some.inj h)
      obtain ⟨scopes, heq⟩ := exists_bindLocal_eq unit name
      rw [heq]
    | claim identifier name =>
      obtain ⟨-, rfl⟩ := Prod.mk.inj (Option.some.inj h)
      exact (precedes_claim unit identifier name).topLevels_eq
    | claimAlias identifier name =>
      obtain ⟨-, rfl⟩ := Prod.mk.inj (Option.some.inj h)
      exact (precedes_claimAlias unit identifier name).topLevels_eq
    | _ => exact absurd rfl hreferring

/-- A step adds the name that it declares to the declarations. -/
theorem isTopLevel_of_step {step : Step} {answer : Answer}
    (h : unit.step settings step = some (answer, next)) :
    next.isTopLevel name = true ↔ step = .declareTopLevel name ∨ unit.isTopLevel name = true := by
  by_cases hstep : ∃ declared, step = .declareTopLevel declared
  · obtain ⟨declared, rfl⟩ := hstep
    obtain ⟨-, rfl⟩ := Prod.mk.inj (Option.some.inj h)
    rw [isTopLevel_declareTopLevel, Step.declareTopLevel.injEq, eq_comm]
  · rw [not_exists] at hstep
    rw [isTopLevel, topLevels_of_step hstep h, isTopLevel, or_iff_right (hstep name)]

/-- **The declarations are all names that were ever declared.** -/
theorem isTopLevel_of_runCalls {calls : List Call} {answers : List Answer}
    (h : unit.runCalls calls = some (answers, last)) :
    last.isTopLevel name = true ↔ Declares calls name ∨ unit.isTopLevel name = true := by
  induction calls generalizing unit answers with
  | nil =>
    obtain ⟨-, rfl⟩ := Prod.mk.inj (Option.some.inj h)
    simp [Declares]
  | cons first rest ih =>
    obtain ⟨answer, next, later, hfirst, hrest, -⟩ := runCalls_cons_eq_some_iff.mp h
    have hdeclares : Declares (first :: rest) name ↔
        first.step = .declareTopLevel name ∨ Declares rest name :=
      List.exists_mem_cons_iff _ first rest
    rw [ih hrest, isTopLevel_of_step hfirst, hdeclares, or_assoc, or_left_comm]

/-- Every state of a unit has an exact index. -/
theorem indexExact_of_runCalls {label : String} {calls : List Call} {answers : List Answer}
    (h : (ofLabel label).runCalls calls = some (answers, unit)) : IndexExact unit :=
  runCalls_preserves (fun _ _ hchange => hchange.indexExact) h (indexExact_ofLabel label)

/-- The declarations of a unit are the names that were declared since it was new. -/
theorem isTopLevel_iff_declares {label : String} {calls : List Call} {answers : List Answer}
    (h : (ofLabel label).runCalls calls = some (answers, unit)) :
    unit.isTopLevel name = true ↔ Declares calls name := by
  rw [isTopLevel_of_runCalls h]
  simp [ofLabel, isTopLevel]

/-! ### Declaring several names -/

theorem isTopLevel_declareTopLevels (names : List String) :
    (unit.declareTopLevels names).isTopLevel name = true ↔
      name ∈ names ∨ unit.isTopLevel name = true := by
  induction names generalizing unit with
  | nil => simp [declareTopLevels]
  | cons first rest ih =>
    have hcons : unit.declareTopLevels (first :: rest) =
        (unit.declareTopLevel first).declareTopLevels rest := rfl
    rw [hcons, ih, isTopLevel_declareTopLevel, List.mem_cons, or_assoc, or_left_comm]

theorem IndexExact.declareTopLevels (h : IndexExact unit) (names : List String) :
    IndexExact (unit.declareTopLevels names) := by
  induction names generalizing unit with
  | nil => exact h
  | cons first rest ih => exact ih (h.declareTopLevel first)

/-- Declarations touch the two containers only. -/
theorem declareTopLevels_eq (unit : NamingUnit) (names : List String) :
    unit.declareTopLevels names =
      { unit with
        topLevels := (unit.declareTopLevels names).topLevels
        topLevelsByIdentifier := (unit.declareTopLevels names).topLevelsByIdentifier } := by
  induction names generalizing unit with
  | nil => rfl
  | cons first rest ih => exact ih (unit.declareTopLevel first)

/-- **Declaring the same names in another order, or more than once, makes no difference.** -/
theorem IndexExact.declareTopLevels_congr (h : IndexExact unit) {names others : List String}
    (hnames : ∀ name, name ∈ names ↔ name ∈ others) :
    unit.declareTopLevels names = unit.declareTopLevels others := by
  have htopLevels :
      (unit.declareTopLevels names).topLevels = (unit.declareTopLevels others).topLevels := by
    refine topLevels_ext fun name => ?_
    rw [isTopLevel_declareTopLevels, isTopLevel_declareTopLevels, hnames]
  have hindex := (h.declareTopLevels names).topLevelsByIdentifier_eq (h.declareTopLevels others)
    htopLevels
  rw [declareTopLevels_eq unit names, declareTopLevels_eq unit others, htopLevels, hindex]

/-- **The index of the declarations is exact.** Let any calls be made on a new unit. Its declarations
are the names that the calls declare, the index has each of them under its own identifier and nothing
else, and an identifier is shared exactly when another declaration is written with it. Calls that
declare the same names, in any order, any number of times and among whatever else, leave the same
set and the same index. When the same names are declared next in two ways, all that follows is the
same. -/
theorem declarations_indexed {label : String} {calls : List Call} {answers : List Answer}
    (hrun : (ofLabel label).runCalls calls = some (answers, unit)) :
    (∀ name, unit.isTopLevel name = true ↔ Declares calls name) ∧
    (∀ identifier name, name ∈ unit.topLevelsWritten identifier ↔
      unit.isTopLevel name = true ∧ Identifier.ofSimpleName name = identifier) ∧
    (∀ identifier name, unit.isSharedTopLevel identifier name = true ↔
      ∃ declared, unit.isTopLevel declared = true ∧ declared ≠ name ∧
        Identifier.ofSimpleName declared = identifier) ∧
    (∀ otherLabel otherCalls otherAnswers other,
      (ofLabel otherLabel).runCalls otherCalls = some (otherAnswers, other) →
        (∀ name, Declares calls name ↔ Declares otherCalls name) →
          unit.topLevels = other.topLevels ∧
            unit.topLevelsByIdentifier = other.topLevelsByIdentifier) ∧
    ∀ names others, (∀ name, name ∈ names ↔ name ∈ others) → ∀ further,
      (unit.declareTopLevels names).runCalls further =
        (unit.declareTopLevels others).runCalls further := by
  have hexact := indexExact_of_runCalls hrun
  refine ⟨fun name => isTopLevel_iff_declares hrun, ?_, ?_, ?_, ?_⟩
  · intro identifier name
    exact hexact.mem_topLevelsWritten_iff
  · intro identifier name
    exact hexact.isSharedTopLevel_iff
  · intro otherLabel otherCalls otherAnswers other hother hsame
    have htopLevels : unit.topLevels = other.topLevels := by
      refine topLevels_ext fun name => ?_
      rw [isTopLevel_iff_declares hrun, isTopLevel_iff_declares hother]
      exact hsame name
    have hexact' := indexExact_of_runCalls hother
    exact ⟨htopLevels, hexact.topLevelsByIdentifier_eq hexact' htopLevels⟩
  · intro names others hnames further
    rw [hexact.declareTopLevels_congr hnames]

/-- Two names that become the same identifier are listed together, although they are spelled
differently, and further declarations may come in any order. -/
theorem declarations_indexed_keywords :
    let calls := [Step.declareTopLevel "a.class", .resolve "c.class__", .enterScope,
      .declareTopLevel "b.class__"].map (Call.mk .default)
    let further := [Step.resolve "b.class__", .resolve "d.Thing"].map (Call.mk .default)
    ∃ answers unit, (ofLabel "unit.kt").runCalls calls = some (answers, unit) ∧
      unit.isTopLevel "a.class" = true ∧ "a.class" ∈ unit.topLevelsWritten "class__" ∧
      unit.isSharedTopLevel "class__" "b.class__" = true ∧
      (unit.declareTopLevels ["d.Thing", "e.Thing", "d.Thing"]).runCalls further =
        (unit.declareTopLevels ["e.Thing", "d.Thing"]).runCalls further := by
  intro calls further
  have hcompletes : ((ofLabel "unit.kt").runCalls calls).isSome = true := by
    decide +kernel
  obtain ⟨⟨answers, unit⟩, hrun⟩ := Option.isSome_iff_exists.mp hcompletes
  obtain ⟨hdeclared, hwritten, hshared, -, hcongr⟩ := declarations_indexed hrun
  have hclass : unit.isTopLevel "a.class" = true :=
    (hdeclared _).mpr ⟨_, List.mem_cons_self, rfl⟩
  have hidentifier : Identifier.ofSimpleName "a.class" = "class__" := by decide +kernel
  refine ⟨answers, unit, hrun, hclass, (hwritten _ _).mpr ⟨hclass, hidentifier⟩,
    (hshared _ _).mpr ⟨"a.class", hclass, by decide, hidentifier⟩, hcongr _ _ ?_ further⟩
  intro name
  simp only [List.mem_cons, List.not_mem_nil, or_false]
  tauto

end Nomenclator.NamingUnit
