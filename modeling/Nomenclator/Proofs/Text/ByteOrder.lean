import Mathlib.Data.String.Basic

/-!
# The order of texts is that of their bytes

Texts are compared character by character. Their UTF-8 encodings are compared byte by byte, and both
comparisons agree (`lt_iff_utf8Bytes_lt`): of two different characters the smaller one has the
smaller encoding, and neither encoding is a prefix of the other.
-/

namespace Nomenclator.Text

/-- The UTF-8 encoding of a text. -/
def utf8Bytes (text : String) : List UInt8 :=
  text.toUTF8.data.toList

/-- A text is encoded character by character. -/
theorem utf8Bytes_eq_flatMap (text : String) :
    utf8Bytes text = text.toList.flatMap String.utf8EncodeChar := by
  rw [utf8Bytes, String.toUTF8_eq_toByteArray, ← String.utf8Encode_toList, List.utf8Encode,
    List.data_toByteArray]

theorem utf8Bytes_append (first second : String) :
    utf8Bytes (first ++ second) = utf8Bytes first ++ utf8Bytes second := by
  simp only [utf8Bytes_eq_flatMap, String.toList_append, List.flatMap_append]

/-! ### Characters -/

/-- The encoding of a character has six bits of it in each byte but the first. Of two numbers the
smaller one is smaller in the first such group in which they differ. -/
private theorem lt_in_some_group {v w : ℕ} (h : v < w) :
    v / 262144 < w / 262144 ∨ v / 262144 = w / 262144 ∧
      (v / 4096 % 64 < w / 4096 % 64 ∨ v / 4096 % 64 = w / 4096 % 64 ∧
        (v / 64 % 64 < w / 64 % 64 ∨ v / 64 % 64 = w / 64 % 64 ∧ v % 64 < w % 64)) := by
  have hgroup {x y : ℕ} (hxy : x < y) : x / 64 < y / 64 ∨ x / 64 = y / 64 ∧ x % 64 < y % 64 := by
    omega
  have hdiv (x : ℕ) : x / 4096 = x / 64 / 64 ∧ x / 262144 = x / 64 / 64 / 64 := by
    omega
  rw [(hdiv v).1, (hdiv v).2, (hdiv w).1, (hdiv w).2]
  rcases hgroup h with h | h
  · rcases hgroup h with h | h
    · rcases hgroup h with h | h
      · exact Or.inl h
      · exact Or.inr ⟨h.1, Or.inl h.2⟩
    · omega
  · omega

/-- A continuation byte holds a group of six bits. -/
private theorem toNat_continuation (v : ℕ) : (UInt8.ofNat (v % 64 + 128)).toNat = v % 64 + 128 := by
  rw [UInt8.toNat_ofNat']
  omega

/-- Of two characters the smaller one has the smaller encoding, whatever follows. -/
theorem utf8EncodeChar_append_lt {c d : Char} (h : c < d) (l m : List UInt8) :
    String.utf8EncodeChar c ++ l < String.utf8EncodeChar d ++ m := by
  have hlt : c.val.toNat < d.val.toNat := UInt32.lt_iff_toNat_lt.mp h
  have hd : d.val.toNat < 0x110000 := by
    rcases d.valid with hd | hd <;> omega
  unfold String.utf8EncodeChar
  dsimp only
  generalize c.val.toNat = v at *
  generalize d.val.toNat = w at *
  have hgroup := lt_in_some_group hlt
  have hlead {x : ℕ} (hx : x < 8) : (UInt8.ofNat (x % 8 + 240)).toNat = x + 240 := by
    rw [UInt8.toNat_ofNat']
    omega
  have hv : v / 262144 < 8 := by omega
  have hw : w / 262144 < 8 := by omega
  -- encodings of different lengths differ in the first byte already
  split_ifs <;>
    simp only [List.cons_append, List.cons_lt_cons_iff, UInt8.lt_iff_toNat_lt, ← UInt8.toNat_inj,
      toNat_continuation, hlead hv, hlead hw, UInt8.toNat_ofNat'] <;>
    omega

/-! ### Texts -/

/-- A smaller text has the smaller encoding. -/
theorem utf8Bytes_lt {first second : String} (h : first < second) :
    utf8Bytes first < utf8Bytes second := by
  have hchars : first.toList < second.toList := h
  rw [utf8Bytes_eq_flatMap, utf8Bytes_eq_flatMap]
  generalize first.toList = cs, second.toList = ds at hchars
  induction hchars with
  | @nil d ds =>
    rw [List.flatMap_nil, List.flatMap_cons]
    obtain ⟨byte, bytes, hbytes⟩ := List.exists_cons_of_ne_nil (@String.utf8EncodeChar_ne_nil d)
    rw [hbytes]
    exact List.nil_lt_cons ..
  | cons _ ih =>
    rw [List.flatMap_cons, List.flatMap_cons]
    exact List.append_left_lt ih
  | rel hchar =>
    rw [List.flatMap_cons, List.flatMap_cons]
    exact utf8EncodeChar_append_lt hchar _ _

/-- **Texts compare like their encodings.** -/
theorem lt_iff_utf8Bytes_lt {first second : String} :
    first < second ↔ utf8Bytes first < utf8Bytes second := by
  refine ⟨utf8Bytes_lt, fun h => ?_⟩
  rcases lt_trichotomy first second with hlt | rfl | hgt
  · exact hlt
  · exact absurd h (List.lt_irrefl _)
  · exact absurd (utf8Bytes_lt hgt) (List.lt_asymm h)

end Nomenclator.Text
