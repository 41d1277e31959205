import Nomenclator.Proofs.NamingUnit.Ownership

/-!
# One identifier, one name

Whatever a unit hands out stays right. The identifier is not bound by a live scope when it is handed
out, and from then on it is claimed for its name, or it is unclaimed and the name is the one
declaration that is written with it (`handed_out_sound`). Since an identifier has one owner in this
sense, no two names ever share an identifier, however their segments are spelled.

What a unit hands out is recorded in its references, and the answers that the writer gets are read
off them (`AnsweredBy`).
-/

namespace Nomenclator.NamingUnit

variable {settings : Settings} {start unit last : NamingUnit} {identifier : String}

/-- **Soundness and injectivity of references.** Let `steps` be performed on a unit whose names are
declared, and let any further steps follow. Each identifier that `steps` hand out is bound by no
live scope when it is handed out, and at the end it belongs to its name. No identifier is handed out
for two names. The answers of the run are those that its references give. -/
theorem handed_out_sound (hstart : Prepared start) {steps further : List Step}
    (hsteps : ∀ step ∈ steps ++ further, step.isWriting = true) {answers moreAnswers : List Answer}
    (hrun : start.run settings steps = some (answers, unit))
    (hfurther : unit.run settings further = some (moreAnswers, last)) :
    (∀ reference ∈ start.references settings steps, ∀ identifier,
      reference.identifier? = some identifier →
        reference.moment.isLocal identifier = false ∧ Owns last reference.name identifier) ∧
    (∀ first ∈ start.references settings steps, ∀ second ∈ start.references settings steps,
      ∀ identifier, first.identifier? = some identifier → second.identifier? = some identifier →
        first.name = second.name) ∧
    AnsweredBy (steps.map (Call.mk settings)) (start.references settings steps) answers := by
  have hwriting (step : Step) (hstep : step ∈ steps) := hsteps step (List.mem_append_left _ hstep)
  have hunit := Written.of_run hstart hwriting hrun
  have hlast := hunit.run (fun step hstep => hsteps step (List.mem_append_right _ hstep)) hfurther
  have howns {reference : Reference} (hmem : reference ∈ start.references settings steps)
      {identifier : String} (hidentifier : reference.identifier? = some identifier) :
      Owns last reference.name identifier :=
    hlast.owns (List.mem_append_left _ hmem) hidentifier
  refine ⟨?_, ?_, answeredBy_of_run hwriting hrun⟩
  · intro reference hmem identifier hidentifier
    exact ⟨hunit.isLocal_eq_false hmem hidentifier, howns hmem hidentifier⟩
  · intro first hfirst second hsecond identifier hidentifier hidentifier'
    exact (howns hfirst hidentifier).unique (howns hsecond hidentifier')

/-- Two declarations with one last segment and a foreign name with the same one, referenced inside a
scope that binds another spelling of it, are told apart for good. -/
theorem handed_out_sound_buttons :
    let start := (ofLabel "ui/Buttons.kt").declareTopLevels ["widget.Button", "gadget.Button"]
    let steps := [Step.resolve "other.Button", .enterScope, .bindLocal "gadget_Button",
      .writeName "widget.Button", .bareName "gadget.Button", .resolve "a.class"]
    let further := [Step.exitScope, .writeExtensionMember "gadget.Button", .annotateFile]
    ∃ answers unit moreAnswers last,
      start.run .default steps = some (answers, unit) ∧
        unit.run .default further = some (moreAnswers, last) ∧
        (start.references .default steps).map
            (fun reference => (reference.name, reference.identifier?)) =
          [("other.Button", some "other_Button"), ("widget.Button", some "Button"),
            ("gadget.Button", none), ("a.class", some "class__")] ∧
        Owns last "widget.Button" "Button" ∧
        AnsweredBy (steps.map (Call.mk .default)) (start.references .default steps) answers := by
  intro start steps further
  have hmade : (start.references .default steps).map
      (fun reference => (reference.name, reference.identifier?)) =
        [("other.Button", some "other_Button"), ("widget.Button", some "Button"),
          ("gadget.Button", none), ("a.class", some "class__")] := by
    decide +kernel
  have hcompletes : ((start.run .default steps).bind fun result =>
      result.2.run .default further).isSome = true := by
    decide +kernel
  obtain ⟨⟨moreAnswers, last⟩, hrun⟩ := Option.isSome_iff_exists.mp hcompletes
  obtain ⟨⟨answers, unit⟩, hsteps, hfurther⟩ := Option.bind_eq_some_iff.mp hrun
  have hmem : ("widget.Button", some "Button") ∈ (start.references .default steps).map
      (fun reference => (reference.name, reference.identifier?)) := by
    rw [hmade]
    decide
  obtain ⟨reference, hmem, hreference⟩ := List.mem_map.mp hmem
  obtain ⟨hname, hidentifier⟩ := Prod.mk.inj hreference
  have hsound := handed_out_sound ((Prepared.ofLabel _).declareTopLevels _) (by decide) hsteps
    hfurther
  have howns := (hsound.1 reference hmem "Button" hidentifier).2
  rw [hname] at howns
  exact ⟨answers, unit, moreAnswers, last, hsteps, hfurther, hmade, howns, hsound.2.2⟩

end Nomenclator.NamingUnit
