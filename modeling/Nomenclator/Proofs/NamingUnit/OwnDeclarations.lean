import Nomenclator.Proofs.NamingUnit.ImportHeader
import Nomenclator.Proofs.NamingUnit.Ownership

/-!
# The declarations of a unit keep their identifiers

Foreign names and aliases compete with the declarations of the unit for identifiers, and they may be
referenced first. They never win (`own_declarations_kept`). A claim on an identifier that a
declaration is written with is a claim for such a declaration, so the header never introduces one,
and a declaration that no other one is written like can be written everywhere. Of several
declarations that are written alike, the one that is referenced first where no local name is in the
way owns the identifier from then on.
-/

namespace Nomenclator.NamingUnit

variable {settings : Settings} {start unit last : NamingUnit} {name identifier declared : String}

/-! ### Claims and imports -/

/-- A claim on an identifier that a declaration is written with is for such a declaration. -/
theorem declared_of_imported (hunit : Consistent unit) {owner : String}
    (himported : unit.imported? identifier = some owner)
    (hdeclared : unit.isTopLevel declared = true)
    (hwritten : Identifier.ofSimpleName declared = identifier) :
    unit.isTopLevel owner = true ∧ Identifier.ofSimpleName owner = identifier := by
  rw [← hunit.mem_topLevelsWritten_iff]
  exact hunit.written_of_imported himported
    (hunit.mem_topLevelsWritten_iff.mpr ⟨hdeclared, hwritten⟩)

/-- No import has an identifier that a declaration is written with. -/
theorem ne_of_mem_importPairs (hunit : Consistent unit)
    (hmem : (name, identifier) ∈ unit.importPairs) (hdeclared : unit.isTopLevel declared = true) :
    Identifier.ofSimpleName declared ≠ identifier := by
  intro hwritten
  obtain ⟨himported, hneeds⟩ := mem_importPairs_iff.mp hmem
  obtain ⟨hname, hidentifier⟩ := declared_of_imported hunit himported hdeclared hwritten
  exact hneeds ⟨hname, hidentifier.symm⟩

/-- An import line with a path adds an identifier to the unit: the last segment of the path, or else
an alias. -/
def Introduces (line : Snippet) (path identifier : String) : Prop :=
  line = .ofText ("import " ++ path) ∧ DottedName.simpleName path = identifier ∨
    line = .ofText ("import " ++ path ++ " as " ++ identifier)

/-- The line for a claim introduces the identifier that is claimed. -/
theorem introduces_importLine (name identifier : String) :
    Introduces (.ofText (importLine name identifier)) (Identifier.sanitizePath name)
      identifier := by
  rcases importLine_eq name identifier with ⟨hline, hlast⟩ | ⟨hline, -⟩
  · exact Or.inl ⟨congrArg Snippet.ofText hline, hlast⟩
  · exact Or.inr (congrArg Snippet.ofText hline)

/-! ### Declarations that are written alike -/

/-- A reference asks for the identifier of a declaration while no live scope binds it. -/
def Reference.AsksFor (reference : Reference) (identifier : String) : Prop :=
  reference.moment.isTopLevel reference.name = true ∧
    Identifier.ofSimpleName reference.name = identifier ∧
      reference.moment.isLocal identifier = false

instance (reference : Reference) (identifier : String) :
    Decidable (reference.AsksFor identifier) :=
  inferInstanceAs (Decidable (_ ∧ _ ∧ _))

section Written

variable {early later : List Reference} {first reference : Reference}

/-- The first reference to ask for an identifier gets it. -/
theorem grant_of_first (h : Written start (early ++ first :: later) last)
    (hfirst : first.AsksFor identifier)
    (hearly : ∀ reference ∈ early, ¬reference.AsksFor identifier) :
    first.grant = .bare identifier := by
  obtain ⟨hdeclared, rfl, hlocal⟩ := hfirst
  obtain ⟨hmoment, aliasable, next, hrefer⟩ := h.split
  refine (bare_or_refusesBare_of_refer hrefer).resolve_right fun hrefuses => ?_
  cases hrefuses with
  | bound hbound =>
    rw [hlocal] at hbound
    cases hbound
  | reserved hforeign =>
    rw [hdeclared] at hforeign
    cases hforeign
  | taken himported hne =>
    -- whoever has claimed the identifier is a declaration that asked for it earlier
    obtain ⟨howner, hwritten⟩ := declared_of_imported hmoment.consistent himported hdeclared rfl
    obtain ⟨reference, hmem, rfl, hidentifier⟩ := hmoment.accounts.handed_out himported
    refine hearly reference hmem ⟨?_, hwritten, hmoment.isLocal_eq_false hmem hidentifier⟩
    rw [hmoment.isTopLevel_moment hmem, ← hmoment.precedes.isTopLevel_eq]
    exact howner

/-- A name that was given its bare identifier gets it whenever it asks for it. -/
theorem grant_of_later (h : Written start (early ++ first :: later) last)
    (hfirst : first.grant = .bare identifier) (hmem : reference ∈ later)
    (hname : reference.name = first.name) (hasks : reference.AsksFor identifier) :
    reference.grant = .bare identifier := by
  obtain ⟨-, rfl, hlocal⟩ := hasks
  obtain ⟨between, later, rfl⟩ := List.append_of_mem hmem
  rw [← List.cons_append, ← List.append_assoc] at h
  obtain ⟨hmoment, aliasable, next, hrefer⟩ := h.split
  -- the name has owned the identifier since it was given it
  have howns := hmoment.owns (List.mem_append_right early List.mem_cons_self)
    (congrArg Grant.identifier? hfirst)
  rw [← hname] at howns
  refine (bare_or_refusesBare_of_refer hrefer).resolve_right fun hrefuses => ?_
  have hrefused := bareName_of_refusesBare hmoment.consistent hrefuses
  rw [bareName_of_owns hmoment.consistent howns hlocal] at hrefused
  cases hrefused

end Written

/-! ### The declarations of a unit -/

/-- A declaration that no other one is written like is written with its identifier wherever no live
scope binds it. -/
theorem resolve_of_sole (hunit : Consistent unit) (hdeclared : unit.isTopLevel name = true)
    (hlocal : unit.isLocal (Identifier.ofSimpleName name) = false)
    (hsole : ∀ other, unit.isTopLevel other = true →
      Identifier.ofSimpleName other = Identifier.ofSimpleName name → other = name) :
    unit.resolve name = some (Identifier.ofSimpleName name, unit) := by
  have hsole' : unit.IsSoleDeclaration (Identifier.ofSimpleName name) name := by
    intro other
    rw [hunit.mem_topLevelsWritten_iff]
    constructor
    · rintro ⟨hother, hwritten⟩
      exact hsole other hother hwritten
    · intro heq
      rw [heq]
      exact ⟨hdeclared, rfl⟩
  rw [resolve, bareName_of_owns hunit (hunit.owns (Or.inr hsole')) hlocal]

/-- **The declarations of a unit keep their identifiers.** Let `steps` be performed on a unit whose
names are declared. An identifier that a declaration is written with is claimed for such
declarations only, and no import line introduces it. A declaration that no other one is written like
resolves to its identifier wherever no live scope binds it, and nothing changes. Of several
declarations that are written alike, the first one to ask for the identifier gets it then and
whenever it asks again, and no other name ever gets it. The answers of the run are those that its
references give. -/
theorem own_declarations_kept (hstart : Prepared start) {steps : List Step}
    (hsteps : ∀ step ∈ steps, step.isWriting = true) {answers : List Answer}
    (hrun : start.run settings steps = some (answers, last)) :
    (∀ identifier owner declared, last.imported? identifier = some owner →
      last.isTopLevel declared = true → Identifier.ofSimpleName declared = identifier →
        last.isTopLevel owner = true ∧ Identifier.ofSimpleName owner = identifier) ∧
    (∀ line ∈ last.importSnippets, ∃ name identifier, (name, identifier) ∈ last.importPairs ∧
      Introduces line (Identifier.sanitizePath name) identifier ∧
        ∀ declared, last.isTopLevel declared = true →
          Identifier.ofSimpleName declared ≠ identifier) ∧
    (∀ name, last.isTopLevel name = true → last.isLocal (Identifier.ofSimpleName name) = false →
      (∀ other, last.isTopLevel other = true →
        Identifier.ofSimpleName other = Identifier.ofSimpleName name → other = name) →
      last.resolve name = some (Identifier.ofSimpleName name, last)) ∧
    (∀ early first later identifier,
      start.references settings steps = early ++ first :: later → first.AsksFor identifier →
      (∀ reference ∈ early, ¬reference.AsksFor identifier) →
        first.grant = .bare identifier ∧
        (∀ reference ∈ later, reference.name = first.name → reference.AsksFor identifier →
          reference.grant = .bare identifier) ∧
        ∀ reference ∈ start.references settings steps,
          reference.identifier? = some identifier → reference.name = first.name) ∧
    AnsweredBy (steps.map (Call.mk settings)) (start.references settings steps) answers := by
  have hwritten := Written.of_run hstart hsteps hrun
  have hunit := hwritten.consistent
  refine ⟨?_, ?_, ?_, ?_, answeredBy_of_run hsteps hrun⟩
  · intro identifier owner declared himported hdeclared hwritten
    exact declared_of_imported hunit himported hdeclared hwritten
  · intro line hline
    obtain ⟨⟨name, identifier⟩, hmem, rfl⟩ := List.mem_map.mp hline
    exact ⟨name, identifier, hmem, introduces_importLine name identifier,
      fun declared => ne_of_mem_importPairs hunit hmem⟩
  · intro name hdeclared hlocal hsole
    exact resolve_of_sole hunit hdeclared hlocal hsole
  · intro early first later identifier hreferences hfirst hearly
    rw [hreferences] at hwritten ⊢
    have hgrant := grant_of_first hwritten hfirst hearly
    refine ⟨hgrant, ?_, ?_⟩
    · intro reference hmem hname hasks
      exact grant_of_later hwritten hgrant hmem hname hasks
    · intro reference hmem hidentifier
      exact (hwritten.owns hmem hidentifier).unique
        (hwritten.owns (List.mem_append_right _ List.mem_cons_self)
          (congrArg Grant.identifier? hgrant))

/-- A declaration that was referenced first, but under a local name, does not get the identifier
that another one has taken in the meantime. -/
theorem own_declarations_kept_buttons :
    let start := (ofLabel "ui/Buttons.kt").declareTopLevels ["widget.Button", "gadget.Button"]
    let steps := [Step.resolve "other.Button", .enterScope, .bindLocal "Button",
      .resolve "widget.Button", .exitScope, .resolve "gadget.Button", .writeName "widget.Button"]
    ∃ answers last, start.run .default steps = some (answers, last) ∧
      (start.references .default steps).map Reference.identifier? =
        [some "other_Button", some "widget_Button", some "Button", some "widget_Button"] ∧
      ∀ reference ∈ start.references .default steps,
        reference.identifier? = some "Button" → reference.name = "gadget.Button" := by
  intro start steps
  have hmade : (start.references .default steps).map (fun reference =>
      (reference.name, reference.identifier?, decide (reference.AsksFor "Button"))) =
        [("other.Button", some "other_Button", false),
          ("widget.Button", some "widget_Button", false)] ++
        ("gadget.Button", some "Button", true) ::
          [("widget.Button", some "widget_Button", true)] := by
    decide +kernel
  have hidentifiers := congrArg (List.map fun entry => entry.2.1) hmade
  rw [List.map_map] at hidentifiers
  have hcompletes : (start.run .default steps).isSome = true := by
    decide +kernel
  obtain ⟨⟨answers, last⟩, hrun⟩ := Option.isSome_iff_exists.mp hcompletes
  refine ⟨answers, last, hrun, hidentifiers, ?_⟩
  obtain ⟨early, rest, hreferences, hearly, hrest⟩ := List.map_eq_append_iff.mp hmade
  obtain ⟨first, later, rfl, hfirst, -⟩ := List.map_eq_cons_iff.mp hrest
  obtain ⟨hname, hasks⟩ := Prod.mk.inj hfirst
  have hearly' (reference : Reference) (hmem : reference ∈ early) :
      ¬reference.AsksFor "Button" := by
    have hentry : (reference.name, reference.identifier?, decide (reference.AsksFor "Button")) ∈
        [("other.Button", some "other_Button", false),
          ("widget.Button", some "widget_Button", false)] := by
      rw [← hearly]
      exact List.mem_map_of_mem hmem
    have hfalse : decide (reference.AsksFor "Button") = false := by
      simp only [List.mem_cons, Prod.mk.injEq, List.not_mem_nil, or_false] at hentry
      rcases hentry with ⟨-, -, hfalse⟩ | ⟨-, -, hfalse⟩ <;> exact hfalse
    exact of_decide_eq_false hfalse
  have hkept := own_declarations_kept ((Prepared.ofLabel _).declareTopLevels _) (by decide) hrun
  rw [← hname]
  exact (hkept.2.2.2.1 early first later "Button" hreferences
    (of_decide_eq_true (Prod.mk.inj hasks).2) hearly').2.2

end Nomenclator.NamingUnit
