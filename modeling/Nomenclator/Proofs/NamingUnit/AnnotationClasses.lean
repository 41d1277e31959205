import Nomenclator.Proofs.Interop.NameAnnotation
import Nomenclator.Proofs.NamingUnit.Independence
import Nomenclator.Proofs.NamingUnit.Ownership

/-!
# Annotations claim their own classes only

An annotation refers to its classes and is written with the texts of these references
(`IsAnnotationText`). All that it leaves in the unit are claims on the bare identifiers of its
classes (`annotations_claim_own_classes`). It remembers no alias, because a class that cannot be
written with its bare identifier is written with its full path.

When the bare identifier can be had is decided by what is live at that moment (`AdmitsBare`). In a
consistent unit this is the exact complement of the reasons to refuse it
(`not_admitsBare_iff_refusesBare`). The branches of `bareName` ask for less than the criterion says:
a declaration that no other one is written like does not look at the claims at all. The index of the
declarations makes up for that, since nothing else can have claimed its identifier.

A file annotation refers to two classes, and the claim of the first one may stand in the way of the
second. So the classes are referred to one after the other (`referToEach`), and what one reference
leaves behind is carried over to a list of them (`claimsBare_referToEach`).
-/

namespace Nomenclator.NamingUnit

variable {settings : Settings} {start unit next last : NamingUnit} {name identifier : String}

/-! ### Where a bare identifier can be written -/

/-- The bare identifier of a name can be written for it here: no live scope binds it, it is not
claimed for another name, and no other declaration is written with it, or the name is declared
too. -/
structure AdmitsBare (unit : NamingUnit) (name : String) : Prop where
  isLocal_eq_false : unit.isLocal (Identifier.ofSimpleName name) = false
  eq_of_imported : ∀ owner, unit.imported? (Identifier.ofSimpleName name) = some owner →
    owner = name
  sole_or_declared : (∀ declared, unit.isTopLevel declared = true →
      Identifier.ofSimpleName declared = Identifier.ofSimpleName name → declared = name) ∨
    unit.isTopLevel name = true

/-- **The bare identifier can be written exactly where there is no reason to refuse it.** -/
theorem not_admitsBare_iff_refusesBare (hunit : Consistent unit) :
    ¬AdmitsBare unit name ↔ RefusesBare unit name := by
  constructor
  · intro hnot
    cases hlocal : unit.isLocal (Identifier.ofSimpleName name) with
    | true => exact .bound hlocal
    | false =>
      by_contra hrefuses
      refine hnot ⟨hlocal, fun owner himported => ?_, or_iff_not_imp_right.mpr ?_⟩
      · by_contra hne
        exact hrefuses (.taken himported hne)
      · intro hforeign declared hdeclared hwritten
        by_contra hne
        have hmem := hunit.mem_topLevelsWritten_iff.mpr ⟨hdeclared, hwritten⟩
        cases himported : unit.imported? (Identifier.ofSimpleName name) with
        | none =>
          exact hrefuses (.reserved (Bool.eq_false_iff.mpr hforeign)
            ((isSharedTopLevel_iff unit _ name).mpr ⟨declared, hmem, hne⟩) himported)
        | some owner =>
          -- the identifier of a declaration is claimed, so the owner is declared and not the name
          have howner := hunit.mem_topLevelsWritten_iff.mp (hunit.written_of_imported himported hmem)
          refine hrefuses (.taken himported ?_)
          rintro rfl
          exact hforeign howner.1
  · rintro hrefuses ⟨hlocal, hclaimed, hsole⟩
    cases hrefuses with
    | bound h =>
      rw [hlocal] at h
      cases h
    | taken himported hne => exact hne (hclaimed _ himported)
    | reserved hforeign hshared =>
      obtain ⟨declared, hmem, hne⟩ := (isSharedTopLevel_iff unit _ name).mp hshared
      obtain ⟨hdeclared, hwritten⟩ := hunit.mem_topLevelsWritten_iff.mp hmem
      rcases hsole with hsole | hdeclared'
      · exact hne (hsole declared hdeclared hwritten)
      · rw [hforeign] at hdeclared'
        cases hdeclared'

/-- The record of a reference that takes no alias says whether the bare identifier could be
written. -/
theorem grant_bareReference (hunit : Consistent unit) (name : String) :
    AdmitsBare unit name ∧
        (unit.bareReference name).grant = .bare (Identifier.ofSimpleName name) ∨
      ¬AdmitsBare unit name ∧ (unit.bareReference name).grant = .path := by
  by_cases hadmits : AdmitsBare unit name
  · refine Or.inl ⟨hadmits, ?_⟩
    have hgranted := bare_or_refusesBare_of_refer (@refer_false unit name)
    exact hgranted.resolve_right fun hrefuses =>
      (not_admitsBare_iff_refusesBare hunit).mpr hrefuses hadmits
  · refine Or.inr ⟨hadmits, ?_⟩
    have hrefuses := (not_admitsBare_iff_refusesBare hunit).mp hadmits
    rw [bareReference, bareName_of_refusesBare hunit hrefuses]
    rfl

/-! ### What references without aliases leave behind -/

/-- Between two moments a unit has gained nothing but claims on the bare identifiers of some names. -/
structure ClaimsBare (names : List String) (unit next : NamingUnit) : Prop where
  /-- Nothing but the claims has changed. -/
  frame : next = { unit with imports := next.imports }
  /-- Every claim was there before or is one of a name on its own bare identifier. -/
  imported : ∀ identifier, next.imported? identifier = unit.imported? identifier ∨
    unit.imported? identifier = none ∧ ∃ name ∈ names,
      Identifier.ofSimpleName name = identifier ∧ next.imported? identifier = some name

theorem ClaimsBare.refl (names : List String) (unit : NamingUnit) : ClaimsBare names unit unit :=
  ⟨rfl, fun _ => Or.inl rfl⟩

theorem ClaimsBare.mono {names more : List String} (hnames : ∀ name ∈ names, name ∈ more)
    (h : ClaimsBare names unit next) : ClaimsBare more unit next := by
  refine ⟨h.frame, fun identifier => (h.imported identifier).imp_right ?_⟩
  rintro ⟨hnone, name, hname, himported⟩
  exact ⟨hnone, name, hnames name hname, himported⟩

theorem ClaimsBare.trans {names : List String} (h : ClaimsBare names unit next)
    (h' : ClaimsBare names next last) : ClaimsBare names unit last where
  frame := by
    rw [h'.frame, h.frame]
  imported identifier := by
    rcases h'.imported identifier with heq | ⟨hnone, hclaimed⟩
    · rw [heq]
      exact h.imported identifier
    · -- what is free at the later moment was free at the earlier one
      rcases h.imported identifier with heq' | ⟨-, name, -, -, hsome⟩
      · exact Or.inr ⟨heq' ▸ hnone, hclaimed⟩
      · rw [hnone] at hsome
        cases hsome

/-- A claim of a name on its own bare identifier. -/
theorem claimsBare_claim (unit : NamingUnit) (name : String) :
    ClaimsBare [name] unit (unit.claim (Identifier.ofSimpleName name) name).2 where
  frame := by
    rw [claim_snd_eq]
  imported identifier := by
    rw [imported?_claim]
    split
    · rename_i hfree
      obtain ⟨rfl, hnone⟩ := hfree
      exact Or.inr ⟨hnone, name, List.mem_singleton_self name, rfl, rfl⟩
    · exact Or.inl rfl

/-- A reference that is granted no alias leaves at most a claim on the bare identifier. -/
theorem Answers.claimsBare {grant : Grant} (h : Answers unit name grant next)
    (hgrant : ∀ identifier, grant ≠ .aliased identifier) : ClaimsBare [name] unit next := by
  cases h with
  | own | path => exact .refl _ unit
  | bare => exact claimsBare_claim unit name
  | remembered | claimed => exact absurd rfl (hgrant _)

/-- **A reference that takes no alias leaves at most a claim on the bare identifier.** -/
theorem claimsBare_bareName (unit : NamingUnit) (name : String) :
    ClaimsBare [name] unit (unit.bareName name).2 := by
  rcases hbare : unit.bareName name with ⟨_ | identifier, next⟩
  · rw [(eq_of_bareName_none hbare).1]
    exact .refl _ unit
  · exact (answers_of_bareName_some hbare).claimsBare (by simp)

/-- Refers to names one after the other and takes no alias for any of them. -/
def referToEach (unit : NamingUnit) : List String → List Reference × NamingUnit
  | [] => ([], unit)
  | name :: rest =>
    let (made, last) := (unit.bareName name).2.referToEach rest
    (unit.bareReference name :: made, last)

/-- The references to several names are moves that take no alias. -/
theorem performAll_map_refer_false (unit : NamingUnit) (names : List String) :
    unit.performAll (names.map (Move.refer · false)) = some (unit.referToEach names) := by
  induction names generalizing unit with
  | nil => rfl
  | cons name rest ih =>
    simp only [List.map_cons, performAll, perform, refer_false, Option.map_some, Option.bind_some,
      ih, referToEach, List.singleton_append]

/-- The references are made to the names, in order. -/
theorem map_name_referToEach (unit : NamingUnit) (names : List String) :
    (unit.referToEach names).1.map Reference.name = names := by
  induction names generalizing unit with
  | nil => rfl
  | cons name rest ih => rw [referToEach, List.map_cons, ih]; rfl

/-- References to several names leave at most claims on their bare identifiers. -/
theorem claimsBare_referToEach (unit : NamingUnit) (names : List String) :
    ClaimsBare names unit (unit.referToEach names).2 := by
  induction names generalizing unit with
  | nil => exact .refl _ unit
  | cons name rest ih =>
    have hfirst : ClaimsBare (name :: rest) unit (unit.bareName name).2 :=
      (claimsBare_bareName unit name).mono (by simp)
    exact hfirst.trans ((ih (unit.bareName name).2).mono fun _ => List.mem_cons_of_mem name)

theorem Reference.text_of_bare {reference : Reference} (h : reference.grant = .bare identifier) :
    reference.text = identifier := by
  rw [Reference.text, Reference.identifier?, h, Grant.identifier?, Option.getD_some]

theorem Reference.text_of_path {reference : Reference} (h : reference.grant = .path) :
    reference.text = Identifier.sanitizePath reference.name := by
  rw [Reference.text, Reference.identifier?, h, Grant.identifier?, Option.getD_none]

/-- A class is written with its bare identifier where that can be written, and with its full path
elsewhere. -/
def Reference.IsBareOrPath (reference : Reference) : Prop :=
  AdmitsBare reference.moment reference.name ∧
      reference.grant = .bare (Identifier.ofSimpleName reference.name) ∧
        reference.text = Identifier.ofSimpleName reference.name ∨
    ¬AdmitsBare reference.moment reference.name ∧ reference.grant = .path ∧
      reference.text = Identifier.sanitizePath reference.name

/-- Each of several names is written with its bare identifier exactly where that can be written. -/
theorem isBareOrPath_of_mem_referToEach (hunit : Consistent unit) {names : List String}
    {reference : Reference} (hmem : reference ∈ (unit.referToEach names).1) :
    reference.IsBareOrPath := by
  induction names generalizing unit with
  | nil => cases hmem
  | cons name rest ih =>
    rcases List.mem_cons.mp hmem with rfl | hmem
    · rcases grant_bareReference hunit name with ⟨hadmits, hgrant⟩ | ⟨hrefused, hgrant⟩
      · exact Or.inl ⟨hadmits, hgrant, Reference.text_of_bare hgrant⟩
      · exact Or.inr ⟨hrefused, hgrant, Reference.text_of_path hgrant⟩
    · exact ih (hunit.bareName name) hmem

/-! ### Annotations -/

/-- The steps that write annotations. -/
def Step.isAnnotation : Step → Bool
  | .annotateFile | .annotateName _ _ | .annotateType _ | .annotateField _ | .annotateMethod _ _
  | .annotateParameter _ => true
  | _ => false

/-- The classes that a step writes in its annotation, in order. A declaration that needs no
annotation has none. -/
def Step.annotationClasses (settings : Settings) : Step → List String
  | .annotateFile => [settings.annotations.optIn, settings.annotations.experimentalMarker]
  | .annotateName _ _ | .annotateParameter _ => [settings.annotations.interopName]
  | .annotateType declaration =>
    if declaration.isAnnotated then [settings.annotations.interopName] else []
  | .annotateField field => if field.isAnnotated then [settings.annotations.interopName] else []
  | .annotateMethod method names? =>
    if !method.isConstructor && (names?.bind Interop.MethodNames.methodName?).isSome then
      [settings.annotations.interopName]
    else []
  | _ => []

/-- An annotation does nothing but refer to its classes. -/
theorem moves_eq_map_annotationClasses {step : Step} (hstep : step.isAnnotation = true) :
    step.moves settings = (step.annotationClasses settings).map (Move.refer · false) := by
  cases step with
  | annotateFile | annotateName | annotateParameter => rfl
  | annotateType | annotateField | annotateMethod =>
    rw [Step.moves, Step.annotationClasses]
    split <;> rfl
  | _ => cases hstep

/-- **An annotation is written in one pass over its classes.** -/
theorem step_of_isAnnotation {step : Step} (hstep : step.isAnnotation = true) :
    unit.step settings step =
      some (step.answer settings (unit.referToEach (step.annotationClasses settings)).1,
        (unit.referToEach (step.annotationClasses settings)).2) := by
  have hwriting : step.isWriting = true := by
    cases step with
    | declareTopLevel | claim | claimAlias => cases hstep
    | _ => rfl
  rw [step_eq_performAll hwriting, moves_eq_map_annotationClasses hstep,
    performAll_map_refer_false]
  rfl

/-- The foreign name that a step writes in its annotation, and whether the name is exact. -/
def Step.annotatedName? (settings : Settings) : Step → Option (String × Option Bool)
  | .annotateName name exactness? => some (name, exactness?)
  | .annotateType declaration => some (Interop.typeName settings false declaration, some true)
  | .annotateField field => some (Interop.fieldName field.name, some false)
  | .annotateMethod _ names? =>
    (names?.bind Interop.MethodNames.methodName?).map fun name => (name, some false)
  | .annotateParameter label => some (label, none)
  | _ => none

/-- The text of the annotation that a step writes, from the texts of its classes. -/
inductive IsAnnotationText (settings : Settings) : Step → List String → String → Prop
  | file (optInClass markerClass : String) :
      IsAnnotationText settings .annotateFile [optInClass, markerClass]
        ("@file:" ++ optInClass ++ "(" ++ markerClass ++ "::class)")
  | named {step : Step} {name : String} {exactness? : Option Bool}
      (hname : step.annotatedName? settings = some (name, exactness?)) (nameClass : String) :
      IsAnnotationText settings step [nameClass]
        ("@" ++ nameClass ++ "(" ++
          ((Snippet.stringLiteral name).text ++ Interop.Annotations.afterName exactness?))
  /-- Without classes there is no annotation. -/
  | without (step : Step) : IsAnnotationText settings step [] ""

/-- The annotation with a foreign name that a step writes, from its class. -/
theorem isAnnotationText_nameSnippet {step : Step} {name : String} {exactness? : Option Bool}
    (hname : step.annotatedName? settings = some (name, exactness?)) (nameClass : String) :
    IsAnnotationText settings step [nameClass]
      (Interop.Annotations.nameSnippet (.ofText nameClass) name exactness?).text := by
  rw [Interop.Annotations.text_nameSnippet, Snippet.text_ofText]
  exact .named hname nameClass

/-- **An annotation is written with the texts of its classes.** -/
theorem exists_answer_eq_snippet {step : Step} (hstep : step.isAnnotation = true)
    {made : List Reference} (hmade : made.map Reference.name = step.annotationClasses settings) :
    ∃ snippet, step.answer settings made = .snippet snippet ∧
      IsAnnotationText settings step (made.map Reference.text) snippet.text := by
  cases step with
  | annotateFile =>
    obtain ⟨optInClass, rest, rfl, -, hrest⟩ := List.map_eq_cons_iff.mp hmade
    obtain ⟨markerClass, rfl, -⟩ := List.map_eq_singleton_iff.mp hrest
    refine ⟨_, rfl, ?_⟩
    rw [Interop.Annotations.text_fileSnippet, Snippet.text_ofText, Snippet.text_ofText]
    exact .file optInClass.text markerClass.text
  | annotateName | annotateParameter =>
    obtain ⟨nameClass, rfl, -⟩ := List.map_eq_singleton_iff.mp hmade
    exact ⟨_, rfl, isAnnotationText_nameSnippet rfl nameClass.text⟩
  | annotateType | annotateField =>
    rw [Step.annotationClasses] at hmade
    split at hmade
    · obtain ⟨nameClass, rfl, -⟩ := List.map_eq_singleton_iff.mp hmade
      exact ⟨_, rfl, isAnnotationText_nameSnippet rfl nameClass.text⟩
    · obtain rfl := List.map_eq_nil_iff.mp hmade
      exact ⟨_, rfl, .without _⟩
  | annotateMethod method names? =>
    rw [Step.annotationClasses] at hmade
    split at hmade
    · rename_i hneeds
      obtain ⟨nameClass, rfl, -⟩ := List.map_eq_singleton_iff.mp hmade
      obtain ⟨name, hname⟩ := Option.isSome_iff_exists.mp (Bool.and_eq_true_iff.mp hneeds).2
      refine ⟨_, rfl, isAnnotationText_nameSnippet ?_ nameClass.text⟩
      rw [Step.annotatedName?, hname]
      rfl
    · obtain rfl := List.map_eq_nil_iff.mp hmade
      exact ⟨_, rfl, .without _⟩
  | _ => cases hstep

/-- An annotation without classes is no annotation. -/
theorem answer_of_annotationClasses_eq_nil {step : Step} (hstep : step.isAnnotation = true)
    (hclasses : step.annotationClasses settings = []) :
    step.answer settings [] = .snippet .empty := by
  cases step with
  | annotateType | annotateField | annotateMethod => rfl
  | annotateFile | annotateName | annotateParameter => cases hclasses
  | _ => cases hstep

/-- **Annotations claim their own classes only.** Let a unit whose names are declared be written up
to some moment, and let an annotation be written there, with any settings. It refers to its classes
one after the other, and what is written for them stands in the text of the annotation. Each of them
is written with its bare identifier when that can be written at its moment, and with its full path
otherwise. All that has changed afterwards are claims on free identifiers, each of them the bare
identifier of one of the classes for that class. A declaration that needs no annotation gets none,
and then nothing changes. -/
theorem annotations_claim_own_classes (hstart : Prepared start) {calls : List Call}
    (hcalls : ∀ call ∈ calls, call.step.isWriting = true) {answers : List Answer}
    (hrun : start.runCalls calls = some (answers, unit)) (settings : Settings) {step : Step}
    (hstep : step.isAnnotation = true) :
    ∃ made snippet next, unit.referToEach (step.annotationClasses settings) = (made, next) ∧
      made.map Reference.name = step.annotationClasses settings ∧
      unit.step settings step = some (.snippet snippet, next) ∧
      IsAnnotationText settings step (made.map Reference.text) snippet.text ∧
      (∀ reference ∈ made, reference.IsBareOrPath) ∧
      ClaimsBare (step.annotationClasses settings) unit next ∧
      (step.annotationClasses settings = [] → snippet = .empty ∧ next = unit) := by
  have hunit := consistent_of_runCalls hstart hcalls hrun
  have hnames := map_name_referToEach unit (step.annotationClasses settings)
  obtain ⟨snippet, hsnippet, htext⟩ := exists_answer_eq_snippet hstep hnames
  refine ⟨_, snippet, _, rfl, hnames, ?_, htext, ?_, claimsBare_referToEach unit _, ?_⟩
  · rw [← hsnippet]
    exact step_of_isAnnotation hstep
  · intro reference hmem
    exact isBareOrPath_of_mem_referToEach hunit hmem
  · intro hclasses
    rw [hclasses] at hsnippet ⊢
    have hempty := answer_of_annotationClasses_eq_nil hstep hclasses
    exact ⟨Answer.snippet.inj (hsnippet.symm.trans hempty), rfl⟩

/-- Two classes that end alike compete for one identifier: the first one claims it, and the second
one is written with its path. -/
theorem annotations_claim_own_classes_flags :
    let settings := { Settings.default with annotations := ⟨"ui.Label", "a.Flag", "b.Flag"⟩ }
    let start := (ofLabel "ui/Labels.kt").declareTopLevels ["app.Label"]
    let calls := [Step.resolve "gadget.Button", .enterScope, .bindLocal "label"].map
      (Call.mk settings)
    ∃ answers unit snippet next, start.runCalls calls = some (answers, unit) ∧
      unit.step settings .annotateFile = some (.snippet snippet, next) ∧
      snippet.text = "@file:Flag(b.Flag::class)" ∧
      next = { unit with imports := next.imports } ∧ next.imported? "Flag" = some "a.Flag" := by
  intro settings start calls
  have hcompletes : (start.runCalls calls).map (fun result =>
      let written := result.2.referToEach ["a.Flag", "b.Flag"]
      decide (written.1.map Reference.text = ["Flag", "b.Flag"] ∧
        written.2.imported? "Flag" = some "a.Flag")) = some true := by
    decide +kernel
  obtain ⟨⟨answers, unit⟩, hrun, hcompletes⟩ := Option.map_eq_some_iff.mp hcompletes
  have hannotates : Step.annotateFile.isAnnotation = true := rfl
  obtain ⟨made, snippet, next, hmade, -, hstep, htext, -, hclaims, -⟩ :=
    annotations_claim_own_classes ((Prepared.ofLabel _).declareTopLevels _) (by decide) hrun
      settings hannotates
  obtain ⟨htexts, himported⟩ := of_decide_eq_true hcompletes
  have hmade' : unit.referToEach ["a.Flag", "b.Flag"] = (made, next) := hmade
  rw [hmade'] at htexts himported
  rw [htexts] at htext
  refine ⟨answers, unit, snippet, next, hrun, hstep, ?_, hclaims.frame, himported⟩
  generalize snippet.text = text at htext ⊢
  cases htext
  decide

end Nomenclator.NamingUnit
