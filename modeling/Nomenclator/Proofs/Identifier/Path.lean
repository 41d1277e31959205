import Mathlib.Tactic
import Nomenclator.Identifier
import Nomenclator.Proofs.Text.Split

/-!
# Paths are written segment by segment

Splitting a name at its dots and joining segments without dots undo each other. Sanitizing a segment
adds no dot, so a sanitized path has the sanitized segments of the name (`segments_sanitizePath`),
and its last segment is the identifier by which the name is known (`simpleName_sanitizePath`). So
it is decided segment by segment which paths are written alike (`sanitizePath_eq_sanitizePath_iff`).
-/

namespace Nomenclator

namespace DottedName

/-- A segment has characters of the name, but no dot. -/
theorem mem_and_ne_dot_of_mem_segments {name segment : String} {c : Char}
    (h : segment ∈ segments name) (hc : c ∈ segment.toList) : c ∈ name.toList ∧ c ≠ '.' := by
  obtain ⟨part, hpart, rfl⟩ := List.mem_map.mp h
  rw [String.toList_ofList] at hc
  rw [List.splitOn_eq_splitOnP] at hpart
  obtain ⟨hmem, hne⟩ := Text.mem_and_eq_false_of_mem_splitOnP hpart hc
  exact ⟨hmem, beq_eq_false_iff_ne.mp hne⟩

/-- Segments without dots are the segments of the name that joins them. -/
theorem segments_ofSegments {parts : List String} (hparts : ∀ part ∈ parts, '.' ∉ part.toList)
    (hne : parts ≠ []) : segments (ofSegments parts) = parts := by
  have hlists : (['.'].intercalate (parts.map String.toList)).splitOn '.' =
      parts.map String.toList := by
    refine List.splitOn_intercalate '.' ?_ (by simpa using hne)
    intro list hlist
    obtain ⟨part, hpart, rfl⟩ := List.mem_map.mp hlist
    exact hparts part hpart
  have hdot : (".":String).toList = ['.'] := rfl
  rw [segments, ofSegments, String.toList_intercalate, hdot, hlists, List.map_map]
  simp [Function.comp_def]

end DottedName

namespace Identifier

open DottedName (segments simpleName mem_and_ne_dot_of_mem_segments segments_ofSegments
  segments_ne_nil)

/-- The characters that sanitizing adds to a name or takes away from it. -/
def marks : List Char :=
  "$_`".toList

/-- Sanitizing leaves all other characters in place and adds none of them. -/
theorem filter_sanitize {p : Char → Bool} (hmarks : marks.any p = false) (name : String) :
    (sanitize name).toList.filter p = name.toList.filter p := by
  obtain ⟨hdollar, hunderscore, hbacktick⟩ : p '$' = false ∧ p '_' = false ∧ p '`' = false := by
    simpa [marks] using hmarks
  have hreplaced : (Text.replaceChar '$' dollarReplacement name).toList.filter p =
      name.toList.filter p :=
    Text.filter_replaceChar hdollar (by simpa [dollarReplacement] using hunderscore)
  have hsuffix : forbiddenSuffix.toList.filter p = [] := by
    simpa [forbiddenSuffix] using hunderscore
  have hquote : "`".toList.filter p = [] := by
    simpa using hbacktick
  unfold sanitize protect quoted
  split
  · rw [String.toList_append, List.filter_append, hreplaced, hsuffix, List.append_nil]
  split
  · rw [String.toList_append, String.toList_append, List.filter_append, List.filter_append,
      hreplaced, hquote, List.nil_append, List.append_nil]
  · exact hreplaced

/-- Sanitizing keeps each of the other characters and adds none of them. -/
theorem mem_sanitize_iff {name : String} {c : Char} (hc : c ∉ marks) :
    c ∈ (sanitize name).toList ↔ c ∈ name.toList := by
  have hmarks : marks.any (· == c) = false := by
    rw [List.any_beq', List.contains_eq_mem, decide_eq_false_iff_not]
    exact hc
  have hfilter (text : String) : c ∈ text.toList ↔ c ∈ text.toList.filter (· == c) := by
    simp
  rw [hfilter, filter_sanitize hmarks, ← hfilter]

/-- Sanitizing adds no dot and takes none away. -/
theorem count_dot_sanitize (name : String) :
    (sanitize name).toList.count '.' = name.toList.count '.' := by
  rw [List.count_eq_length_filter, List.count_eq_length_filter, filter_sanitize (by decide)]

/-- **A sanitized path has the sanitized segments of its name.** -/
theorem segments_sanitizePath (name : String) :
    segments (sanitizePath name) = (segments name).map sanitize := by
  refine segments_ofSegments ?_ (by simpa using segments_ne_nil name)
  intro part hpart hdot
  obtain ⟨segment, hsegment, rfl⟩ := List.mem_map.mp hpart
  rw [mem_sanitize_iff (by decide)] at hdot
  exact (mem_and_ne_dot_of_mem_segments hsegment hdot).2 rfl

/-- Two paths are written alike exactly if they have as many segments and these are written alike,
one by one. -/
theorem sanitizePath_eq_sanitizePath_iff {first second : String} :
    sanitizePath first = sanitizePath second ↔
      (segments first).length = (segments second).length ∧
        ∀ index (hfirst : index < (segments first).length)
          (hsecond : index < (segments second).length),
          sanitize (segments first)[index] = sanitize (segments second)[index] := by
  have hsegments : sanitizePath first = sanitizePath second ↔
      (segments first).map sanitize = (segments second).map sanitize := by
    refine ⟨fun heq => ?_, fun heq => congrArg DottedName.ofSegments heq⟩
    rw [← segments_sanitizePath, heq, segments_sanitizePath]
  rw [hsegments, List.ext_getElem_iff]
  simp only [List.length_map, List.getElem_map]

/-- The last segment of a sanitized path is the identifier of the name. -/
theorem simpleName_sanitizePath (name : String) :
    simpleName (sanitizePath name) = ofSimpleName name := by
  obtain ⟨last, hlast⟩ := Option.ne_none_iff_exists'.mp
    (fun hnone => segments_ne_nil name (List.getLast?_eq_none_iff.mp hnone))
  rw [ofSimpleName, simpleName, simpleName, segments_sanitizePath, List.getLastD_eq_getLast?,
    List.getLastD_eq_getLast?, List.getLast?_map, hlast]
  rfl

end Identifier

end Nomenclator
