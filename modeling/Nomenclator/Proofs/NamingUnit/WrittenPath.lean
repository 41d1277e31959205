import Nomenclator.Proofs.NamingUnit.ImportHeader

/-!
# Written paths can be read segment by segment

A path is written by sanitizing its segments, and sanitizing leaves the dots of a text as they are.
So the segments of what is written are the sanitized segments of the name, and the import header can
be read: the last segment of an imported path is the identifier that the line brings in, unless the
line gives an alias (`importLine_eq`). Paths that are written alike are so in each of their segments
(`paths_written_segmentwise`).
-/

namespace Nomenclator.NamingUnit

open DottedName (segments simpleName)
open Identifier (sanitize sanitizePath)

/-- **Paths are written segment by segment.** Splitting a written path gives the sanitized segments
of its name, and sanitizing adds no dot to any text and takes none away. The last segment is the
identifier of the name, so it is the identifier that is claimed, in each line of an import header
that has no alias. Two paths are written alike exactly if they have as many segments and these are
written alike, one by one. -/
theorem paths_written_segmentwise :
    (∀ name, segments (sanitizePath name) = (segments name).map sanitize ∧
      simpleName (sanitizePath name) = Identifier.ofSimpleName name) ∧
    (∀ text, (sanitize text).toList.count '.' = text.toList.count '.') ∧
    (∀ unit : NamingUnit, List.Forall₂ (fun pair line => unit.imported? pair.2 = some pair.1 ∧
        (line.text = "import " ++ sanitizePath pair.1 ∧
            simpleName (sanitizePath pair.1) = pair.2 ∨
          line.text = "import " ++ sanitizePath pair.1 ++ " as " ++ pair.2 ∧
            simpleName (sanitizePath pair.1) ≠ pair.2))
      unit.importPairs unit.importSnippets) ∧
    ∀ first second, sanitizePath first = sanitizePath second ↔
      (segments first).length = (segments second).length ∧
        ∀ index (hfirst : index < (segments first).length)
          (hsecond : index < (segments second).length),
          sanitize (segments first)[index] = sanitize (segments second)[index] := by
  refine ⟨fun name => ?_, Identifier.count_dot_sanitize, fun unit => ?_,
    fun first second => Identifier.sanitizePath_eq_sanitizePath_iff⟩
  · exact ⟨Identifier.segments_sanitizePath name, Identifier.simpleName_sanitizePath name⟩
  · rw [importSnippets, List.forall₂_map_right_iff, List.forall₂_same]
    rintro ⟨name, identifier⟩ hpair
    rw [Snippet.text_ofText]
    exact ⟨(mem_importPairs_iff.mp hpair).1, importLine_eq name identifier⟩

/-- A keyword in a path is quoted or suffixed where it stands, and the segments stay apart. -/
theorem paths_written_segmentwise_keywords :
    segments (sanitizePath "app.in.class") = ["app", "`in`", "class__"] ∧
      sanitizePath "app.in.class" = sanitizePath "app.in.class__" ∧
      sanitizePath "app.in.class" ≠ sanitizePath "app.inclass" := by
  refine ⟨?_, ?_, fun heq => ?_⟩
  · rw [(paths_written_segmentwise.1 _).1]
    decide +kernel
  · exact (paths_written_segmentwise.2.2.2 _ _).mpr ⟨by decide, by decide +kernel⟩
  · exact absurd ((paths_written_segmentwise.2.2.2 _ _).mp heq).1 (by decide)

end Nomenclator.NamingUnit
