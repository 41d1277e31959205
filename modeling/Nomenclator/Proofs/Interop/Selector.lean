import Mathlib.Tactic
import Nomenclator.Interop.Selector
import Nomenclator.Proofs.Text.Bytes
import Nomenclator.Proofs.Text.Split

/-!
# The parts of a selector

A selector is its parts with a colon between any two, and there may be one more colon at its end
(`HasParts`). The parts have no colons, so a selector has them in one way only (`HasParts.unique`),
and `parts` finds them (`hasParts_parts`).

A part of two characters or more can be cut into a name and a label (`Cut`). Neither of them is
empty, and together they are the part again. The cut is described in characters, but it is made at a
place that is counted in bytes (`cutPlace`). The bytes are those of the characters in front of it,
so it is never inside a character (`isValid_cutPlace`), and it is where the rule says
(`cut_of_cutWord?`).
-/

namespace Nomenclator.Interop.Selector

/-! ### Parts -/

/-- Texts with a colon between any two of them. -/
def joined (texts : List String) : String :=
  String.intercalate ":" texts

/-- The stem of a selector: the selector without a colon at its end, if there is one. -/
def HasStem (selector stem : String) : Prop :=
  selector = stem ++ ":" ∨ selector = stem ∧ selector.toList.getLast? ≠ some ':'

/-- The parts of a selector: one or more texts without colons, which make up its stem. -/
structure HasParts (selector : String) (texts : List String) : Prop where
  ne_nil : texts ≠ []
  colon_notMem : ∀ part ∈ texts, ':' ∉ part.toList
  hasStem : HasStem selector (joined texts)

variable {selector stem text first : String} {rest texts others : List String}

/-- Every part but the first one follows a colon. -/
theorem joined_cons (first : String) (rest : List String) :
    joined (first :: rest) = first ++ String.join (rest.map (":" ++ ·)) := by
  induction rest generalizing first with
  | nil => simp [joined]
  | cons second rest ih =>
    have hjoined : joined (first :: second :: rest) = first ++ ":" ++ joined (second :: rest) :=
      String.intercalate_cons_of_ne_nil (List.cons_ne_nil _ _)
    rw [hjoined, ih, List.map_cons, String.join_cons, String.append_assoc, String.append_assoc]

/-- A text in front of the parts belongs to the first one. -/
theorem append_joined_cons (text first : String) (rest : List String) :
    text ++ joined (first :: rest) = joined ((text ++ first) :: rest) := by
  rw [joined_cons, joined_cons, String.append_assoc]

/-- A selector has one stem. -/
theorem HasStem.unique {other : String} (h : HasStem selector stem)
    (hother : HasStem selector other) : stem = other := by
  have hlast (text : String) : (text ++ ":").toList.getLast? = some ':' := by
    rw [String.toList_append]
    exact List.getLast?_concat
  rcases h with h | ⟨rfl, hnone⟩
  · rcases hother with hother | ⟨rfl, hnone⟩
    · exact (String.append_left_inj ":").mp (h.symm.trans hother)
    · rw [h] at hnone
      exact absurd (hlast stem) hnone
  · rcases hother with rfl | ⟨hother, -⟩
    · exact absurd (hlast other) hnone
    · exact hother

/-- **A selector has one list of parts.** -/
theorem HasParts.unique (h : HasParts selector texts) (hothers : HasParts selector others) :
    texts = others := by
  have hsplit {texts : List String} (h : HasParts selector texts) :
      (joined texts).toList.splitOn ':' = texts.map String.toList := by
    rw [joined, String.toList_intercalate]
    refine List.splitOn_intercalate ':' ?_ (by simpa using h.ne_nil)
    intro list hlist
    obtain ⟨part, hpart, rfl⟩ := List.mem_map.mp hlist
    exact h.colon_notMem part hpart
  have hmaps : texts.map String.toList = others.map String.toList := by
    rw [← hsplit h, ← hsplit hothers, h.hasStem.unique hothers.hasStem]
  exact List.map_injective_iff.mpr (fun _ _ => String.toList_inj.mp) hmaps

/-- The stem is found by dropping a colon. -/
theorem hasStem_dropColon (selector : String) :
    HasStem selector (String.ofList (dropColon selector.toList)) := by
  rw [dropColon]
  split
  · rename_i hlast
    refine Or.inl ?_
    rw [← String.toList_inj, String.toList_append, String.toList_ofList]
    exact (List.dropLast_append_getLast? _ hlast).symm
  · rename_i hlast
    exact Or.inr ⟨String.ofList_toList.symm, hlast⟩

/-- **The parts are found by splitting the stem.** -/
theorem hasParts_parts (selector : String) :
    HasParts selector ((parts selector).1 :: (parts selector).2) := by
  obtain ⟨head, tail, hsplit⟩ : ∃ head tail,
      (dropColon selector.toList).splitOn ':' = head :: tail :=
    List.exists_cons_of_ne_nil (List.splitOn_ne_nil _ _)
  have hparts : (parts selector).1 :: (parts selector).2 =
      ((dropColon selector.toList).splitOn ':').map String.ofList := by
    rw [parts, hsplit]
    rfl
  rw [hparts]
  refine ⟨by simp, ?_, ?_⟩
  · intro part hpart hcolon
    obtain ⟨list, hlist, rfl⟩ := List.mem_map.mp hpart
    rw [List.splitOn_eq_splitOnP] at hlist
    rw [String.toList_ofList] at hcolon
    have hother := (Text.mem_and_eq_false_of_mem_splitOnP hlist hcolon).2
    exact beq_eq_false_iff_ne.mp hother rfl
  · have hjoined : joined (((dropColon selector.toList).splitOn ':').map String.ofList) =
        String.ofList (dropColon selector.toList) := by
      rw [← String.toList_inj, joined, String.toList_intercalate, List.map_map,
        String.toList_ofList]
      simp [Function.comp_def, List.intercalate_splitOn]
    rw [hjoined]
    exact hasStem_dropColon selector

/-- A beginning without colons lies within the first part. -/
theorem exists_of_joined_eq_append {start : String} (hstart : ':' ∉ start.toList)
    (h : joined (first :: rest) = start ++ text) : ∃ label, first = start ++ label := by
  have hcolon : ∀ c ∈ (String.join (rest.map (":" ++ ·))).toList.head?, c = ':' := by
    cases rest with
    | nil => simp
    | cons second rest => simp
  rw [joined_cons] at h
  have hprefix : start.toList <+: first.toList ++ (String.join (rest.map (":" ++ ·))).toList := by
    rw [← String.toList_append, h, String.toList_append]
    exact List.prefix_append _ _
  rcases List.prefix_or_prefix_of_prefix hprefix (List.prefix_append _ _) with hle | hle
  · obtain ⟨label, hlabel⟩ := hle
    refine ⟨String.ofList label, ?_⟩
    rw [← String.toList_inj, String.toList_append, String.toList_ofList, hlabel]
  · -- what is left of the beginning would begin with a colon
    obtain ⟨left, hleft⟩ := hle
    rw [← hleft, List.prefix_append_right_inj] at hprefix
    obtain ⟨after, hafter⟩ := hprefix
    cases left with
    | nil =>
      refine ⟨"", ?_⟩
      rw [← String.toList_inj, String.append_empty, ← hleft, List.append_nil]
    | cons c left =>
      rw [← hafter] at hcolon
      obtain rfl := hcolon c rfl
      exact absurd (by rw [← hleft]; simp) hstart

/-! ### Where a word is cut -/

open Text (splitAtByte?)
open Unicode (isUppercase)

section Rule

variable {word name label : List Char}

/-- A word is cut into a name and a label: before its last capital, or in the middle if there is no
capital after its first character. -/
inductive Cut (word : List Char) : List Char → List Char → Prop
  | atCapital {first capital : Char} {before after : List Char}
      (hword : word = (first :: before) ++ capital :: after)
      (hcapital : isUppercase capital = true) (hafter : ∀ c ∈ after, isUppercase c = false) :
      Cut word (first :: before) (capital :: after)
  | inMiddle (hlength : 2 ≤ word.length) (hnone : ∀ c ∈ word.tail, isUppercase c = false) :
      Cut word (word.take (word.length / 2)) (word.drop (word.length / 2))

namespace Cut

theorem append_eq (h : Cut word name label) : name ++ label = word := by
  cases h with
  | atCapital hword => exact hword.symm
  | inMiddle => exact List.take_append_drop _ _

/-- A name and its label are the word. -/
theorem append_eq_word {word name label : String}
    (h : Cut word.toList name.toList label.toList) : name ++ label = word := by
  rw [← String.toList_inj, String.toList_append]
  exact h.append_eq

theorem name_ne_nil (h : Cut word name label) : name ≠ [] := by
  cases h with
  | atCapital => exact List.cons_ne_nil _ _
  | inMiddle hlength =>
    rw [← List.length_pos_iff, List.length_take]
    omega

theorem label_ne_nil (h : Cut word name label) : label ≠ [] := by
  cases h with
  | atCapital => exact List.cons_ne_nil _ _
  | inMiddle hlength =>
    rw [← List.length_pos_iff, List.length_drop]
    omega

/-- With a capital after its first character, a word is cut before the last one. -/
theorem exists_capital (h : Cut word name label)
    (hcapital : ∃ c ∈ word.tail, isUppercase c = true) :
    ∃ capital after, label = capital :: after ∧ isUppercase capital = true ∧
      ∀ c ∈ after, isUppercase c = false := by
  cases h with
  | atCapital hword hlast hafter => exact ⟨_, _, rfl, hlast, hafter⟩
  | inMiddle hlength hnone =>
    obtain ⟨c, hmem, hc⟩ := hcapital
    rw [hnone c hmem] at hc
    cases hc

/-- Without one, it is cut in the middle. -/
theorem name_eq_take (h : Cut word name label)
    (hnone : ∀ c ∈ word.tail, isUppercase c = false) : name = word.take (word.length / 2) := by
  cases h with
  | @atCapital first capital before after hword hcapital hafter =>
    have hmem : capital ∈ word.tail := by simp [hword]
    rw [hnone capital hmem] at hcapital
    cases hcapital
  | inMiddle => rfl

end Cut

end Rule

/-! ### The place of the cut -/

section CutPlace

variable {word name label : String} {first capital : Char} {before after : List Char}

/-- Without capitals no character is a later capital, wherever the text begins. -/
theorem filter_isLaterCapital_eq_nil {text : List Char}
    (hnone : ∀ c ∈ text, isUppercase c = false) (start : ℕ) :
    (Text.charPlaces start text).filter isLaterCapital = [] := by
  rw [List.filter_eq_nil_iff]
  rintro ⟨place, c⟩ hmem
  have hc : c ∈ text := Text.map_snd_charPlaces start text ▸ List.mem_map_of_mem hmem
  simp [isLaterCapital, hnone c hc]

/-- A word is cut in front of its last capital, where this is not at its beginning. -/
theorem cutPlace_of_capital (hword : word.toList = (first :: before) ++ capital :: after)
    (hcapital : isUppercase capital = true) (hafter : ∀ c ∈ after, isUppercase c = false) :
    cutPlace word = ((first :: before).map Char.utf8Size).sum := by
  have hpos : 0 < ((first :: before).map Char.utf8Size).sum := by
    have hfirst := first.utf8Size_pos
    rw [List.map_cons, List.sum_cons]
    omega
  have hplaces : Text.charPlaces 0 word.toList = Text.charPlaces 0 (first :: before) ++
      (((first :: before).map Char.utf8Size).sum, capital) :: Text.charPlaces
        (((first :: before).map Char.utf8Size).sum + capital.utf8Size) after := by
    rw [hword, Text.charPlaces_append, Nat.zero_add]
    rfl
  have hlast : isLaterCapital (((first :: before).map Char.utf8Size).sum, capital) = true := by
    rw [isLaterCapital, hcapital, Bool.and_true, decide_eq_true hpos]
  rw [cutPlace, hplaces, List.filter_append, List.filter_cons_of_pos hlast,
    filter_isLaterCapital_eq_nil hafter, List.getLast?_concat]

/-- Without such a capital it is cut in front of the character in its middle. -/
theorem cutPlace_of_no_capital (hnone : ∀ c ∈ word.toList.tail, isUppercase c = false) :
    cutPlace word = ((word.toList.take (word.length / 2)).map Char.utf8Size).sum := by
  have hfilter : (Text.charPlaces 0 word.toList).filter isLaterCapital = [] := by
    cases hlist : word.toList with
    | nil => rfl
    | cons first rest =>
      rw [hlist, List.tail_cons] at hnone
      -- the first character is at the beginning, whatever it is
      have hfirst : isLaterCapital (0, first) ≠ true := by simp [isLaterCapital]
      rw [Text.charPlaces, List.filter_cons_of_neg hfirst, filter_isLaterCapital_eq_nil hnone]
  rw [cutPlace, hfilter, Text.getElem?_charPlaces, ← String.length_toList]
  cases hmiddle : word.toList[word.toList.length / 2]? with
  | some c => simp
  | none =>
    rw [List.take_of_length_le (List.getElem?_eq_none_iff.mp hmiddle)]
    exact Text.utf8ByteSize_eq_sum word

/-- A word is cut between two of its characters, and a long enough one by the rule. -/
theorem exists_splitAtByte?_cutPlace (word : String) :
    ∃ name label, splitAtByte? (cutPlace word) word.toList = some (name, label) ∧
      (2 ≤ word.length → Cut word.toList name label) := by
  by_cases hcapital : ∃ c ∈ word.toList.tail, isUppercase c = true
  · obtain ⟨before, capital, after, htail, hcapital, hafter⟩ := Text.exists_last_of_exists hcapital
    obtain ⟨first, hword⟩ : ∃ first, word.toList = first :: word.toList.tail := by
      cases hlist : word.toList with
      | nil => simp [hlist] at htail
      | cons first rest => exact ⟨first, rfl⟩
    rw [htail, ← List.cons_append] at hword
    rw [cutPlace_of_capital hword hcapital hafter]
    exact ⟨_, _, Text.splitAtByte?_eq_some_iff.mpr ⟨hword, rfl⟩,
      fun _ => .atCapital hword hcapital hafter⟩
  · have hnone : ∀ c ∈ word.toList.tail, isUppercase c = false := by simpa using hcapital
    rw [cutPlace_of_no_capital hnone, ← String.length_toList]
    exact ⟨_, _, Text.splitAtByte?_eq_some_iff.mpr ⟨(List.take_append_drop _ _).symm, rfl⟩,
      fun hlength => .inMiddle hlength hnone⟩

/-- **The place of the cut is where a character begins or the word ends.** -/
theorem isValid_cutPlace (word : String) : (⟨cutPlace word⟩ : String.Pos.Raw).IsValid word := by
  obtain ⟨name, label, hsplit, -⟩ := exists_splitAtByte?_cutPlace word
  exact Text.isSome_splitAtByte?_iff.mp (Option.isSome_of_eq_some hsplit)

/-- A word of one character or none is not cut. -/
theorem cutWord?_eq_none_iff : cutWord? word = none ↔ word.length ≤ 1 := by
  rw [cutWord?]
  split <;> simp [*]

/-- **Any other word is cut by the rule**, and at the place of the cut. -/
theorem cut_of_cutWord? (h : cutWord? word = some (name, label)) :
    Cut word.toList name.toList label.toList ∧ name.utf8ByteSize = cutPlace word := by
  obtain ⟨head, tail, hsplit, hcut⟩ := exists_splitAtByte?_cutPlace word
  rw [cutWord?] at h
  split at h
  · cases h
  · rename_i hlength
    rw [Option.some.injEq, Prod.mk.injEq, Text.upToByte, Text.fromByte, hsplit] at h
    obtain ⟨rfl, rfl⟩ := h
    refine ⟨?_, (Text.splitAtByte?_toList_eq_some_iff.mp hsplit).2⟩
    rw [String.toList_ofList, String.toList_ofList]
    exact hcut (by omega)

end CutPlace

end Nomenclator.Interop.Selector
