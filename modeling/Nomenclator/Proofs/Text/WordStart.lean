import Nomenclator.Proofs.Text.Casing

/-!
# The beginning of a name in bytes and in characters

A name is cut after as many bytes as the word has, and such a place may be inside a character. A cut
is made only where a character begins or the name ends, which shows in the bytes
(`isSome_splitAtByte?_iff`), and the character that follows is the one whose bytes begin there
(`utf8DecodeChar?_of_splitAtByte?`). The bytes in front are compared up to the case of basic Latin
letters. Every other character has only bytes that no such letter has, so equal bytes are equal
characters (`map_lowerByte_utf8Bytes_eq_iff`).

So the rule in bytes and the rule in characters say the same
(`word_start_in_bytes_and_characters`).
-/

namespace Nomenclator.Text

open Unicode (isLowercase)

variable {name word text : String} {head tail : List Char} {c d : Char} {place : ℕ}

/-! ### Cuts in bytes -/

theorem utf8Bytes_injective : Function.Injective utf8Bytes := by
  intro first second h
  rw [← String.toByteArray_inj]
  exact ByteArray.ext (Array.toList_inj.mp h)

/-- The bytes in front of a cut are those of the first part. -/
theorem take_utf8Bytes_of_splitAtByte? (h : splitAtByte? place text.toList = some (head, tail)) :
    (utf8Bytes text).take place = utf8Bytes (String.ofList head) := by
  obtain ⟨htext, hplace⟩ := splitAtByte?_toList_eq_some_iff.mp h
  rw [htext, utf8Bytes_append]
  exact List.take_left' hplace

/-- The character after a cut is the one whose bytes begin there. -/
theorem utf8DecodeChar?_of_splitAtByte? (h : splitAtByte? place text.toList = some (head, tail)) :
    text.toByteArray.utf8DecodeChar? place = tail.head? := by
  obtain ⟨htext, hplace⟩ := splitAtByte?_toList_eq_some_iff.mp h
  have hsize : (String.ofList head).toByteArray.size = place := hplace
  have hafter : text.toByteArray.extract place text.toByteArray.size =
      (String.ofList tail).toByteArray := by
    rw [htext, String.toByteArray_append]
    exact ByteArray.extract_append_eq_right hsize.symm ByteArray.size_append
  rw [ByteArray.utf8DecodeChar?_eq_utf8DecodeChar?_extract, hafter, String.toByteArray_ofList]
  cases tail with
  | nil => rfl
  | cons c rest => rw [List.utf8DecodeChar?_utf8Encode_cons, List.head?_cons]

/-- **Bytes are equal up to case when characters are.** -/
theorem map_lowerByte_utf8Bytes_eq_iff {first second : String} :
    (utf8Bytes first).map lowerByte = (utf8Bytes second).map lowerByte ↔
      first.toList.map Char.toLower = second.toList.map Char.toLower := by
  have hlower (whole : String) : (utf8Bytes whole).map lowerByte =
      utf8Bytes (String.ofList (whole.toList.map Char.toLower)) := by
    rw [utf8Bytes_eq_flatMap, utf8Bytes_eq_flatMap, map_lowerByte_flatMap, String.toList_ofList]
  rw [hlower, hlower, utf8Bytes_injective.eq_iff, String.ofList_inj]

/-! ### Characters up to case -/

/-- Characters that are equal, or letters of basic Latin that differ in case only. -/
def EqUpToLatinCase (c d : Char) : Prop :=
  c = d ∨ c.isAlpha = true ∧ d.isAlpha = true ∧ c.toLower = d.toLower

/-- A character that changes in lower case is a letter, and becomes one. -/
theorem isAlpha_of_toLower_ne (h : c.toLower ≠ c) :
    c.isAlpha = true ∧ c.toLower.isAlpha = true := by
  have hcapital : c.isUpper = true := by
    by_contra hother
    exact h (Char.toLower_eq_of_not_isUpper hother)
  have halpha : c.isAlpha = true := by rw [Char.isAlpha, hcapital, Bool.true_or]
  exact ⟨halpha, by rwa [Char.isAlpha_toLower_eq_isAlpha]⟩

theorem toLower_eq_toLower_iff : c.toLower = d.toLower ↔ EqUpToLatinCase c d := by
  constructor
  · intro h
    by_cases hc : c.toLower = c
    · by_cases hd : d.toLower = d
      · exact Or.inl (hc.symm.trans (h.trans hd))
      · obtain ⟨halpha, hlower⟩ := isAlpha_of_toLower_ne hd
        exact Or.inr ⟨by rwa [← h, hc] at hlower, halpha, h⟩
    · obtain ⟨halpha, hlower⟩ := isAlpha_of_toLower_ne hc
      refine Or.inr ⟨halpha, ?_, h⟩
      by_cases hd : d.toLower = d
      · rwa [h, hd] at hlower
      · exact (isAlpha_of_toLower_ne hd).1
  · rintro (rfl | ⟨-, -, h⟩)
    · rfl
    · exact h

theorem map_toLower_eq_iff {cs ds : List Char} :
    cs.map Char.toLower = ds.map Char.toLower ↔
      cs.length = ds.length ∧ List.Forall₂ EqUpToLatinCase cs ds := by
  have hforall : List.Forall₂ EqUpToLatinCase cs ds ↔
      cs.map Char.toLower = ds.map Char.toLower := by
    rw [← List.forall₂_eq_eq_eq, List.forall₂_map_left_iff, List.forall₂_map_right_iff]
    simp only [toLower_eq_toLower_iff]
  rw [hforall]
  refine (and_iff_right_of_imp fun h => ?_).symm
  simpa using congrArg List.length h

/-! ### Both rules -/

/-- A name begins with a word in bytes: it can be cut after the bytes of the word, they are in front
of the cut up to case, and the character whose bytes come next is no small letter. -/
structure BeginsInBytes (name word : String) : Prop where
  isValid_cut : (⟨word.utf8ByteSize⟩ : String.Pos.Raw).IsValid name
  bytes_eq : ((utf8Bytes name).take word.utf8ByteSize).map lowerByte =
    (utf8Bytes word).map lowerByte
  next_not_lowercase : ∀ c ∈ name.toByteArray.utf8DecodeChar? word.utf8ByteSize,
    isLowercase c = false

/-- **The rule in bytes.** -/
theorem startsWithWord_iff_beginsInBytes :
    startsWithWord name word = true ↔ BeginsInBytes name word := by
  rw [startsWithWord]
  cases hcut : splitAtByte? word.utf8ByteSize name.toList with
  | none =>
    refine iff_of_false Bool.false_ne_true fun h => ?_
    have hsome := isSome_splitAtByte?_iff.mpr h.isValid_cut
    rw [hcut] at hsome
    cases hsome
  | some parts =>
    obtain ⟨head, tail⟩ := parts
    have hvalid : (⟨word.utf8ByteSize⟩ : String.Pos.Raw).IsValid name :=
      isSome_splitAtByte?_iff.mp (by rw [hcut]; rfl)
    have hbytes : eqIgnoringLatinCase head word.toList = true ↔
        ((utf8Bytes name).take word.utf8ByteSize).map lowerByte =
          (utf8Bytes word).map lowerByte := by
      rw [take_utf8Bytes_of_splitAtByte? hcut, map_lowerByte_utf8Bytes_eq_iff,
        String.toList_ofList, eqIgnoringLatinCase, beq_iff_eq]
    have hnext : (!tail.head?.any isLowercase) = true ↔
        ∀ c ∈ name.toByteArray.utf8DecodeChar? word.utf8ByteSize, isLowercase c = false := by
      rw [utf8DecodeChar?_of_splitAtByte? hcut]
      cases tail <;> simp
    rw [Bool.and_eq_true, hbytes, hnext]
    exact ⟨fun h => ⟨hvalid, h.1, h.2⟩, fun h => ⟨h.bytes_eq, h.next_not_lowercase⟩⟩

/-- **The rule in bytes and the rule in characters say the same.** A name is cut only where a
character begins or the name ends. The rule in bytes compares the bytes in front of the cut and looks
at the character behind it. The rule in characters splits the name into as many characters as the
word has and a rest, compares the characters one by one, and looks at the first of the rest. -/
theorem word_start_in_bytes_and_characters (name word : String) :
    (∀ place, (splitAtByte? place name.toList).isSome = true ↔
      (⟨place⟩ : String.Pos.Raw).IsValid name) ∧
    (startsWithWord name word = true ↔ BeginsInBytes name word) ∧
    (startsWithWord name word = true ↔ ∃ head tail, name.toList = head ++ tail ∧
      head.length = word.toList.length ∧ List.Forall₂ EqUpToLatinCase head word.toList ∧
      ∀ c ∈ tail.head?, isLowercase c = false) := by
  refine ⟨fun place => isSome_splitAtByte?_iff, startsWithWord_iff_beginsInBytes, ?_⟩
  simp only [startsWithWord_iff, map_toLower_eq_iff, and_assoc]

end Nomenclator.Text
