/-!
# Replacing a character throughout a text
-/

namespace Nomenclator.Text

/-- The text with every occurrence of one character written as another text. -/
def replaceChar (old : Char) (new : String) (text : String) : String :=
  String.ofList (text.toList.flatMap fun c => if c = old then new.toList else [c])

theorem toList_replaceChar (old : Char) (new text : String) :
    (replaceChar old new text).toList =
      text.toList.flatMap fun c => if c = old then new.toList else [c] := by
  simp [replaceChar]

theorem replaceChar_append (old : Char) (new s t : String) :
    replaceChar old new (s ++ t) = replaceChar old new s ++ replaceChar old new t := by
  simp [replaceChar, String.ofList_append]

/-- Nothing is replaced in a text that does not have the character. -/
theorem replaceChar_of_notMem {old : Char} {new text : String} (h : old ∉ text.toList) :
    replaceChar old new text = text := by
  have hkept : text.toList.map (fun c => if c = old then new.toList else [c]) =
      text.toList.map fun c => [c] := by
    refine List.map_congr_left fun c hc => if_neg ?_
    rintro rfl
    exact h hc
  rw [replaceChar, List.flatMap_def, hkept, ← List.flatMap_def, List.flatMap_singleton',
    String.ofList_toList]

/-- A character that takes no part in the replacement stays where it is. -/
theorem mem_replaceChar_iff {old c : Char} {new text : String} (hold : c ≠ old)
    (hnew : c ∉ new.toList) : c ∈ (replaceChar old new text).toList ↔ c ∈ text.toList := by
  rw [toList_replaceChar, List.mem_flatMap]
  constructor
  · rintro ⟨d, hd, hc⟩
    split at hc
    · exact absurd hc hnew
    · rwa [List.mem_singleton.mp hc]
  · intro hc
    refine ⟨c, hc, ?_⟩
    rw [if_neg hold]
    exact List.mem_singleton_self c

/-- The replaced character is gone, unless the replacement brings it back. -/
theorem notMem_replaceChar {old : Char} {new : String} (h : old ∉ new.toList) (text : String) :
    old ∉ (replaceChar old new text).toList := by
  rw [toList_replaceChar, List.mem_flatMap]
  rintro ⟨c, -, hc⟩
  split at hc
  · exact h hc
  · rename_i hne
    exact hne (List.mem_singleton.mp hc).symm

end Nomenclator.Text
