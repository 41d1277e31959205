import Nomenclator.NamingUnit.AliasCandidate
import Nomenclator.Proofs.DottedName.Separators

/-!
# The letters of an identifier

A letter is neither a mark, nor a dot, nor an underscore. So the identifier for a name has the
letters of the name's last segment (`Identifier.mem_ofSimpleName_iff`), and the alias that runs the
whole path together has the letters of the name (`AliasCandidate.mem_ofPath_iff`). An alias with a
digest has hexadecimal digits besides (`AliasCandidate.mem_ofDigest_iff`).
-/

namespace Nomenclator

open Unicode (isAlphabetic)

variable {name : String} {c : Char}

namespace DottedName

/-- The last segment is a part of the name. -/
theorem mem_of_mem_simpleName (h : c ∈ (simpleName name).toList) : c ∈ name.toList := by
  obtain ⟨last, hlast⟩ := Option.ne_none_iff_exists'.mp
    (fun hnone => segments_ne_nil name (List.getLast?_eq_none_iff.mp hnone))
  rw [simpleName, List.getLastD_eq_getLast?, hlast, Option.getD_some] at h
  exact (mem_and_ne_dot_of_mem_segments (List.mem_of_getLast? hlast) h).1

/-- Letters are neither dots nor underscores. -/
theorem isSeparator_eq_false_of_isAlphabetic (hc : isAlphabetic c = true) :
    isSeparator c = false := by
  rw [Bool.eq_false_iff]
  intro hseparator
  rcases eq_dot_or_eq_underscore hseparator with rfl | rfl <;> exact absurd hc (by decide)

end DottedName

namespace Identifier

/-- Letters are not marks. -/
theorem notMem_marks (hc : isAlphabetic c = true) : c ∉ marks := by
  have hmarks : marks.any isAlphabetic = false := by decide
  rw [List.any_eq_false] at hmarks
  exact fun hmark => hmarks c hmark hc

/-- The identifier of a name has the letters of its last segment. -/
theorem mem_ofSimpleName_iff (hc : isAlphabetic c = true) :
    c ∈ (ofSimpleName name).toList ↔ c ∈ (DottedName.simpleName name).toList :=
  mem_sanitize_iff (notMem_marks hc)

end Identifier

namespace AliasCandidate

open DottedName (isSeparator_eq_false_of_isAlphabetic)
open Identifier (notMem_marks mem_sanitize_iff)

/-- What a digest is written with. -/
def hexDigits : List Char :=
  "0123456789abcdef".toList

/-- A digest is written with hexadecimal digits. -/
theorem mem_hexDigits {attempt : Nat} (h : c ∈ (shortDigest name attempt).toList) :
    c ∈ hexDigits := by
  have hdigit : ∀ value < 16, hexDigit value ∈ hexDigits := by decide
  rw [shortDigest, String.toList_ofList] at h
  obtain ⟨byte, -, hbyte⟩ := List.mem_flatMap.mp h
  have hbound : byte.toNat < 16 * 16 := byte.toNat_lt
  rcases List.mem_cons.mp hbyte with rfl | hbyte
  · exact hdigit _ (Nat.div_lt_of_lt_mul hbound)
  · obtain rfl := List.mem_singleton.mp hbyte
    exact hdigit _ (Nat.mod_lt _ (by decide))

/-- The alias that runs the path together has the letters of the name. -/
theorem mem_ofPath_iff (hc : isAlphabetic c = true) :
    c ∈ (ofPath name).toList ↔ c ∈ name.toList := by
  rw [ofPath, mem_sanitize_iff (notMem_marks hc),
    DottedName.mem_underscored_iff (isSeparator_eq_false_of_isAlphabetic hc)]

/-- An alias with a digest has the letters of the name and those of the digest. -/
theorem mem_ofDigest_iff (hc : isAlphabetic c = true) {attempt : Nat} :
    c ∈ (ofDigest name attempt).toList ↔
      c ∈ name.toList ∨ c ∈ (shortDigest name attempt).toList := by
  have hletter := isSeparator_eq_false_of_isAlphabetic hc
  have hunderscore : c ∉ "_".toList := by
    intro hmem
    rw [List.mem_singleton.mp hmem] at hletter
    cases hletter
  rw [ofDigest, mem_sanitize_iff (notMem_marks hc), String.toList_append, String.toList_append,
    List.mem_append, List.mem_append, DottedName.mem_underscored_iff hletter,
    or_iff_left hunderscore]

end AliasCandidate

end Nomenclator
