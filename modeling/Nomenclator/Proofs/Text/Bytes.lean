import Mathlib
import Nomenclator.Proofs.Text.ByteOrder
import Nomenclator.Text.Bytes

/-!
# Cuts in bytes are cuts between characters

A text is cut after a number of bytes. The cut is made when these are the bytes of the characters in
front of it (`splitAtByte?_eq_some_iff`), which is where a character begins or the text ends
(`isSome_splitAtByte?_iff`), and what stands on both sides are whole characters.

A walk over the text gives each character the number of bytes in front of it. It goes on behind a
beginning of the text as it would from there (`charPlaces_append`), so the place of a character is
found by splitting the text (`getElem?_charPlaces`).
-/

namespace Nomenclator.Text

variable {text head tail : List Char} {whole : String}

/-! ### Cuts -/

/-- **A cut after a number of bytes is a cut between characters.** -/
theorem splitAtByte?_eq_some_iff {bytes : ℕ} :
    splitAtByte? bytes text = some (head, tail) ↔
      text = head ++ tail ∧ (head.map Char.utf8Size).sum = bytes := by
  induction head generalizing bytes text with
  | nil =>
    cases bytes with
    | zero => simp [splitAtByte?]
    | succ bytes =>
      cases text with
      | nil => simp [splitAtByte?]
      | cons c rest => simp [splitAtByte?]
  | cons d head ih =>
    have hpos := d.utf8Size_pos
    cases bytes with
    | zero => simp [splitAtByte?]; omega
    | succ bytes =>
      cases text with
      | nil => simp [splitAtByte?]
      | cons c rest =>
        have hcut : splitAtByte? (bytes + 1) (c :: rest) = some (d :: head, tail) ↔
            c.utf8Size ≤ bytes + 1 ∧ c = d ∧
              splitAtByte? (bytes + 1 - c.utf8Size) rest = some (head, tail) := by
          rw [splitAtByte?]
          split
          · rename_i hle
            rw [Option.map_eq_some_iff]
            constructor
            · rintro ⟨halves, hrest, heq⟩
              cases heq
              exact ⟨hle, rfl, hrest⟩
            · rintro ⟨-, rfl, hrest⟩
              exact ⟨_, hrest, rfl⟩
          · rename_i hlong
            simp [hlong]
        rw [hcut, ih, List.cons_append, List.cons.injEq, List.map_cons, List.sum_cons]
        constructor
        · rintro ⟨hle, rfl, rfl, hsum⟩
          exact ⟨⟨rfl, rfl⟩, by omega⟩
        · rintro ⟨⟨rfl, rfl⟩, hsum⟩
          exact ⟨by omega, rfl, rfl, by omega⟩

theorem utf8ByteSize_eq_sum (text : String) :
    text.utf8ByteSize = (text.toList.map Char.utf8Size).sum := by
  have hbytes : text.utf8ByteSize = (utf8Bytes text).length := rfl
  rw [hbytes, utf8Bytes_eq_flatMap, List.length_flatMap]
  simp

/-- A cut after a number of bytes, with both parts as texts. -/
theorem splitAtByte?_toList_eq_some_iff {place : ℕ} :
    splitAtByte? place whole.toList = some (head, tail) ↔
      whole = String.ofList head ++ String.ofList tail ∧
        (String.ofList head).utf8ByteSize = place := by
  rw [splitAtByte?_eq_some_iff, utf8ByteSize_eq_sum, String.toList_ofList, ← String.ofList_append,
    ← String.toList_inj, String.toList_ofList]

/-- **A text can be cut where a character begins or the text ends**, and nowhere else. -/
theorem isSome_splitAtByte?_iff {place : ℕ} :
    (splitAtByte? place whole.toList).isSome = true ↔ (⟨place⟩ : String.Pos.Raw).IsValid whole := by
  rw [Option.isSome_iff_exists, String.Pos.Raw.isValid_iff_exists_append]
  constructor
  · rintro ⟨⟨head, tail⟩, hcut⟩
    obtain ⟨htext, hplace⟩ := splitAtByte?_toList_eq_some_iff.mp hcut
    exact ⟨_, _, htext, String.Pos.Raw.ext hplace.symm⟩
  · rintro ⟨first, second, htext, hplace⟩
    refine ⟨(first.toList, second.toList), splitAtByte?_toList_eq_some_iff.mpr ?_⟩
    rw [String.ofList_toList, String.ofList_toList]
    exact ⟨htext, (congrArg String.Pos.Raw.byteIdx hplace).symm⟩

/-- A text is cut after whole characters. -/
theorem fromByte_of_eq (h : whole.toList = head ++ tail) :
    fromByte (head.map Char.utf8Size).sum whole = String.ofList tail := by
  rw [fromByte, splitAtByte?_eq_some_iff.mpr ⟨h, rfl⟩]

theorem upToByte_of_eq (h : whole.toList = head ++ tail) :
    upToByte (head.map Char.utf8Size).sum whole = String.ofList head := by
  rw [upToByte, splitAtByte?_eq_some_iff.mpr ⟨h, rfl⟩]

/-! ### Places of characters -/

theorem map_snd_charPlaces (start : ℕ) (text : List Char) :
    (charPlaces start text).map Prod.snd = text := by
  induction text generalizing start with
  | nil => rfl
  | cons c rest ih => rw [charPlaces, List.map_cons, ih]

theorem charPlaces_append (start : ℕ) (head tail : List Char) :
    charPlaces start (head ++ tail) =
      charPlaces start head ++ charPlaces (start + (head.map Char.utf8Size).sum) tail := by
  induction head generalizing start with
  | nil => rfl
  | cons c rest ih =>
    rw [List.cons_append, charPlaces, charPlaces, ih, List.map_cons, List.sum_cons,
      List.cons_append, Nat.add_assoc]

/-- The place of a character is the number of bytes in front of it. -/
theorem getElem?_charPlaces (start : ℕ) (text : List Char) (n : ℕ) :
    (charPlaces start text)[n]? =
      text[n]?.map fun c => (start + ((text.take n).map Char.utf8Size).sum, c) := by
  induction text generalizing start n with
  | nil => rfl
  | cons c rest ih =>
    cases n with
    | zero => rfl
    | succ n =>
      rw [charPlaces, List.getElem?_cons_succ, ih, List.getElem?_cons_succ, List.take_succ_cons,
        List.map_cons, List.sum_cons, Nat.add_assoc]

end Nomenclator.Text
