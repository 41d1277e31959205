import Nomenclator.Proofs.Text.Bytes
import Nomenclator.Proofs.Unicode.CapitalForm
import Nomenclator.Text.Casing
import Nomenclator.Text.Replace

/-!
# The beginning of a name

Whether a name begins with a word is asked in bytes, though what is meant are characters: the first
characters of the name are those of the word up to the case of basic Latin letters, and no small
letter follows (`startsWithWord_iff`). Basic Latin letters have one byte each in either case, so the
cut in bytes falls where the characters say, and never inside one of them.

Title case puts the capital form of the first character in its place. That begins with a capital, so
title case is reached in one step (`titleCase_titleCase`), and what stands behind a name has no part
in it (`titleCase_append`). It brings in letters and marks of letters, and nothing from below the
basic Latin capitals. So a dollar sign, a dot or a digit is in a name in title case only if it was
there before (`mem_of_mem_titleCase`), and it may as well be replaced first
(`titleCase_replaceChar`).
-/

namespace Nomenclator

namespace Text

open Unicode (isLowercase uppercase)

/-! ### Case in bytes -/

section Bytes

variable {c : Char}

/-- A byte with a basic Latin letter in it made small. -/
def lowerByte (byte : UInt8) : UInt8 :=
  if 65 ≤ byte ∧ byte ≤ 90 then byte + 32 else byte

/-- Beyond basic Latin there is no case to be changed. -/
theorem toLower_of_not_latin (h : 128 ≤ c.toNat) : c.toLower = c := by
  refine dif_neg fun hcapital => ?_
  have hlast : c.val.toNat ≤ 90 := UInt32.le_iff_toNat_le.mp hcapital.2
  have htoNat : c.toNat = c.val.toNat := rfl
  omega

/-- Beyond basic Latin no byte is that of a basic Latin character. -/
theorem le_of_mem_utf8EncodeChar {byte : UInt8} (h : 128 ≤ c.toNat)
    (hmem : byte ∈ String.utf8EncodeChar c) : 128 ≤ byte.toNat := by
  -- each byte has a mark of 128 or more and a remainder of the code point
  have hbyte {rest size mark : ℕ} (hsize : 0 < size) (hmark : 128 ≤ mark)
      (hfits : mark + size ≤ 256) : 128 ≤ (UInt8.ofNat (rest % size + mark)).toNat := by
    have hlt := Nat.mod_lt rest hsize
    rw [UInt8.toNat_ofNat', Nat.mod_eq_of_lt (by omega)]
    omega
  have hbeyond : ¬c.val.toNat ≤ 0x7f := not_le.mpr h
  rw [String.utf8EncodeChar, if_neg hbeyond] at hmem
  split_ifs at hmem <;> simp only [List.mem_cons, List.not_mem_nil, or_false] at hmem
  · rcases hmem with rfl | rfl <;> exact hbyte (by decide) (by decide) (by decide)
  · rcases hmem with rfl | rfl | rfl <;> exact hbyte (by decide) (by decide) (by decide)
  · rcases hmem with rfl | rfl | rfl | rfl <;> exact hbyte (by decide) (by decide) (by decide)

theorem lowerByte_of_not_latin {byte : UInt8} (h : 128 ≤ byte.toNat) : lowerByte byte = byte := by
  refine if_neg fun hcapital => ?_
  have hlast : byte.toNat ≤ 90 := UInt8.le_iff_toNat_le.mp hcapital.2
  omega

/-- A character is made small byte by byte. -/
theorem utf8EncodeChar_toLower (c : Char) :
    String.utf8EncodeChar c.toLower = (String.utf8EncodeChar c).map lowerByte := by
  rcases Nat.lt_or_ge c.toNat 128 with hlatin | hbeyond
  · have hall : ∀ n < 128, String.utf8EncodeChar (Char.ofNat n).toLower =
        (String.utf8EncodeChar (Char.ofNat n)).map lowerByte := by
      decide +kernel
    have hchar := hall c.toNat hlatin
    rwa [Char.ofNat_toNat] at hchar
  · rw [toLower_of_not_latin hbeyond]
    have hbytes : ∀ byte ∈ String.utf8EncodeChar c, lowerByte byte = byte :=
      fun byte hmem => lowerByte_of_not_latin (le_of_mem_utf8EncodeChar hbeyond hmem)
    rw [List.map_congr_left hbytes, List.map_id']

/-- The encoding of a text without its case. -/
theorem map_lowerByte_flatMap (text : List Char) :
    (text.flatMap String.utf8EncodeChar).map lowerByte =
      (text.map Char.toLower).flatMap String.utf8EncodeChar := by
  rw [List.map_flatMap, List.flatMap_map]
  exact List.flatMap_congr fun c _ => (utf8EncodeChar_toLower c).symm

/-- The case of a basic Latin letter does not change its number of bytes. -/
theorem utf8Size_toLower (c : Char) : c.toLower.utf8Size = c.utf8Size := by
  rw [← String.length_utf8EncodeChar, utf8EncodeChar_toLower, List.length_map,
    String.length_utf8EncodeChar]

end Bytes

/-! ### Basic Latin -/

section Latin

variable {c d : Char}

theorem toNat_toLower_lt_iff : c.toLower.toNat < 128 ↔ c.toNat < 128 := by
  have hsize (e : Char) : e.utf8Size = 1 ↔ e.toNat < 128 := by
    rw [Char.utf8Size_eq_one_iff, UInt32.le_iff_toNat_le]
    exact Nat.lt_succ_iff.symm
  rw [← hsize, ← hsize, utf8Size_toLower]

/-- The capital form of a basic Latin character is a single character. -/
theorem uppercase_of_latin (h : c.toNat < 128) : uppercase c = [c.toUpper] := by
  have hall : ∀ n < 128, uppercase (Char.ofNat n) = [(Char.ofNat n).toUpper] := by
    decide +kernel
  have hchar := hall c.toNat h
  rwa [Char.ofNat_toNat] at hchar

/-- What stands below the capitals has no capital form. -/
theorem uppercase_of_low (h : c.toNat < 0x41) : uppercase c = [c] := by
  have hupper : c.toUpper = c := by
    refine dif_neg fun hsmall => ?_
    have hfirst : 0x61 ≤ c.val.toNat := UInt32.le_iff_toNat_le.mp hsmall.1
    have htoNat : c.toNat = c.val.toNat := rfl
    omega
  rw [uppercase_of_latin (by omega), hupper]

/-- Characters have the same basic Latin capital when they have the same small letter. -/
theorem toUpper_eq_toUpper_iff : c.toUpper = d.toUpper ↔ c.toLower = d.toLower := by
  constructor
  · intro h
    rw [← Char.toLower_toUpper_eq_toLower, h, Char.toLower_toUpper_eq_toLower]
  · intro h
    rw [← Char.toUpper_toLower_eq_toUpper, h, Char.toUpper_toLower_eq_toUpper]

end Latin

/-! ### Words at the beginning -/

variable {name word after : String} {c : Char}

/-- Texts that are equal up to case have the same number of bytes. -/
theorem sum_utf8Size_eq {cs ds : List Char} (h : cs.map Char.toLower = ds.map Char.toLower) :
    (cs.map Char.utf8Size).sum = (ds.map Char.utf8Size).sum := by
  have hlower (list : List Char) :
      list.map Char.utf8Size = (list.map Char.toLower).map Char.utf8Size := by
    simp [Function.comp_def, utf8Size_toLower]
  rw [hlower cs, hlower ds, h]

/-- **A name begins with a word when its first characters are those of the word.** The case of basic
Latin letters does not count, and no small letter may follow. -/
theorem startsWithWord_iff :
    startsWithWord name word = true ↔ ∃ head tail, name.toList = head ++ tail ∧
      head.map Char.toLower = word.toList.map Char.toLower ∧
      ∀ c ∈ tail.head?, isLowercase c = false := by
  have hends (head tail : List Char) :
      (eqIgnoringLatinCase head word.toList && !tail.head?.any isLowercase) = true ↔
        head.map Char.toLower = word.toList.map Char.toLower ∧
          ∀ c ∈ tail.head?, isLowercase c = false := by
    cases tail <;> simp [eqIgnoringLatinCase]
  rw [startsWithWord]
  constructor
  · intro h
    split at h
    · cases h
    · rename_i head tail hcut
      exact ⟨head, tail, (splitAtByte?_eq_some_iff.mp hcut).1, (hends head tail).mp h⟩
  · rintro ⟨head, tail, hname, hword⟩
    have hcut : splitAtByte? word.utf8ByteSize name.toList = some (head, tail) := by
      rw [splitAtByte?_eq_some_iff, utf8ByteSize_eq_sum]
      exact ⟨hname, sum_utf8Size_eq hword.1⟩
    rw [hcut]
    exact (hends head tail).mpr hword

/-- A name that begins with a word begins with its first character. -/
theorem map_toLower_head?_of_startsWithWord (h : startsWithWord name word = true)
    (hword : word ≠ "") :
    name.toList.head?.map Char.toLower = word.toList.head?.map Char.toLower := by
  obtain ⟨head, tail, hname, hhead, -⟩ := startsWithWord_iff.mp h
  have hne : head ≠ [] := by
    rintro rfl
    exact hword (by simpa using hhead.symm)
  rw [hname, List.head?_append_of_ne_nil _ hne, ← List.head?_map, hhead, List.head?_map]

/-- A name that begins with a word begins with its bytes, up to case. -/
theorem isPrefix_of_startsWithWord (h : startsWithWord name word = true) :
    (utf8Bytes word).map lowerByte <+: (utf8Bytes name).map lowerByte := by
  obtain ⟨head, tail, hname, hhead, -⟩ := startsWithWord_iff.mp h
  rw [utf8Bytes_eq_flatMap, utf8Bytes_eq_flatMap, hname, List.flatMap_append, List.map_append,
    map_lowerByte_flatMap, map_lowerByte_flatMap, hhead]
  exact List.prefix_append _ _

/-- Characters that are not in a word do not complete it at the end of a name. -/
theorem startsWithWord_of_append (h : startsWithWord (name ++ after) word = true)
    (hafter : ∀ c ∈ after.toList, c.toLower ∉ word.toList.map Char.toLower) :
    startsWithWord name word = true := by
  obtain ⟨head, tail, hname, hhead, htail⟩ := startsWithWord_iff.mp h
  rw [String.toList_append] at hname
  rcases List.append_eq_append_iff.mp hname with ⟨rest, rfl, hrest⟩ | ⟨rest, hrest, rfl⟩
  · -- the word reaches beyond the name, so all of the name is in it, and nothing else may be
    cases rest with
    | nil =>
      rw [List.append_nil] at hhead
      exact startsWithWord_iff.mpr ⟨name.toList, [], (List.append_nil _).symm, hhead, by simp⟩
    | cons c rest =>
      refine absurd ?_ (hafter c (by simp [hrest]))
      rw [← hhead]
      exact List.mem_map_of_mem (by simp)
  · refine startsWithWord_iff.mpr ⟨head, rest, hrest, hhead, fun c hc => htail c ?_⟩
    rw [List.head?_append, hc]
    rfl

/-! ### Title case -/

theorem toList_titleCase {first : Char} {rest : List Char} (h : name.toList = first :: rest) :
    (titleCase name).toList = uppercase first ++ rest := by
  rw [titleCase, h]
  exact String.toList_ofList

/-- **A name is in title case when its first character is a capital.** -/
theorem titleCase_eq_self_iff :
    titleCase name = name ↔ ∀ c ∈ name.toList.head?, uppercase c = [c] := by
  cases hname : name.toList with
  | nil =>
    have hempty : titleCase name = name := by
      rw [titleCase, hname, String.toList_eq_nil_iff.mp hname]
    simp [hempty]
  | cons first rest =>
    rw [← String.toList_inj, toList_titleCase hname, hname, ← List.singleton_append,
      List.append_cancel_right_eq]
    simp

/-- **Title case is reached in one step.** -/
theorem titleCase_titleCase (name : String) : titleCase (titleCase name) = titleCase name := by
  rw [titleCase_eq_self_iff]
  cases hname : name.toList with
  | nil => simp [titleCase, hname]
  | cons first rest =>
    obtain ⟨capital, others, huppercase, hcapital⟩ := Unicode.exists_uppercase_eq_cons first
    rw [toList_titleCase hname, huppercase]
    rintro c ⟨⟩
    exact hcapital

/-- Title case does not reach beyond a name, where what stands behind is in title case itself. -/
theorem titleCase_append (hafter : titleCase after = after) :
    titleCase (name ++ after) = titleCase name ++ after := by
  cases hname : name.toList with
  | nil =>
    have hempty : titleCase "" = "" := rfl
    rw [String.toList_eq_nil_iff.mp hname, hempty, String.empty_append, hafter]
  | cons first rest =>
    have hlist : (name ++ after).toList = first :: (rest ++ after.toList) := by
      rw [String.toList_append, hname, List.cons_append]
    rw [← String.toList_inj, toList_titleCase hlist, String.toList_append, toList_titleCase hname,
      List.append_assoc]

theorem titleCase_append_eq_self_iff (hafter : titleCase after = after) :
    titleCase (name ++ after) = name ++ after ↔ titleCase name = name := by
  rw [titleCase_append hafter, String.append_left_inj]

theorem titleCase_join {names : List String} (h : ∀ name ∈ names, titleCase name = name) :
    titleCase (String.join names) = String.join names := by
  induction names with
  | nil => rfl
  | cons first rest ih =>
    obtain ⟨hfirst, hrest⟩ := List.forall_mem_cons.mp h
    rw [String.join_cons, titleCase_append (ih hrest), hfirst]

/-- **Title case and the replacement of a character may change places.** The character is from below
the capitals, and what replaces it is in title case. -/
theorem titleCase_replaceChar {old : Char} {new : String} (hold : old.toNat < 0x41)
    (hne : new ≠ "") (hnew : titleCase new = new) (name : String) :
    titleCase (replaceChar old new name) = replaceChar old new (titleCase name) := by
  cases hname : name.toList with
  | nil =>
    rw [String.toList_eq_nil_iff.mp hname]
    rfl
  | cons first rest =>
    have hsplit : name = String.ofList [first] ++ String.ofList rest := by
      rw [← String.toList_inj, hname]
      simp
    have hreplaced : replaceChar old new name =
        replaceChar old new (String.ofList [first]) ++
          replaceChar old new (String.ofList rest) := by
      rw [hsplit, replaceChar_append]
    by_cases hfirst : first = old
    · -- the first character gives way to a text in title case
      have hself : titleCase name = name := by
        rw [titleCase_eq_self_iff, hname, hfirst]
        rintro c ⟨⟩
        exact uppercase_of_low hold
      have hnewFirst : replaceChar old new (String.ofList [first]) = new := by
        simp [replaceChar, hfirst]
      rw [hself, hreplaced, hnewFirst, titleCase_eq_self_iff, String.toList_append,
        List.head?_append_of_ne_nil _ (mt String.toList_eq_nil_iff.mp hne)]
      exact titleCase_eq_self_iff.mp hnew
    · -- the first character stays, and so does its capital form
      have hkept : replaceChar old new (String.ofList [first]) = String.ofList [first] := by
        simp [replaceChar, hfirst]
      have hcapital : old ∉ (String.ofList (uppercase first)).toList := by
        rw [String.toList_ofList]
        exact fun hmem => hfirst (Unicode.eq_of_mem_uppercase hmem hold).symm
      have htitle : titleCase name = String.ofList (uppercase first) ++ String.ofList rest := by
        rw [← String.toList_inj, toList_titleCase hname]
        simp
      have hlist : (replaceChar old new name).toList =
          first :: (replaceChar old new (String.ofList rest)).toList := by
        rw [hreplaced, hkept, String.toList_append, String.toList_ofList, List.singleton_append]
      rw [← String.toList_inj, toList_titleCase hlist, htitle, replaceChar_append,
        replaceChar_of_notMem hcapital, String.toList_append, String.toList_ofList]

/-- **Title case brings in nothing from below the capitals.** -/
theorem mem_of_mem_titleCase (h : c ∈ (titleCase name).toList) (hlow : c.toNat < 0x41) :
    c ∈ name.toList := by
  rw [titleCase] at h
  split at h
  · cases h
  · rename_i first rest hname
    rw [String.toList_ofList, List.mem_append] at h
    rw [hname, List.mem_cons]
    exact h.imp_left fun hfirst => Unicode.eq_of_mem_uppercase hfirst hlow

end Text

end Nomenclator
