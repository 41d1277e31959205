import Mathlib.Data.List.Basic
import Nomenclator.Text.Replace

/-!
# Splitting a text and replacing in it

Splitting cuts a text at the characters of one kind. The parts consist of the others, and together
with the characters between them they give the text back (`eq_of_splitOnP_eq`).

Where a replacement turns the characters in the parts into characters for the parts, it takes place
inside each part by itself: the characters between the parts stay as they are
(`filter_replaceChar`), and a part of the result is what a part of the text has become
(`splitOnP_replaceChar`). A list can also be split in two at its last element of a kind
(`exists_last_of_exists`).
-/

namespace Nomenclator.Text

/-! ### Parts -/

section Parts

variable {α : Type} {p : α → Bool} {list other part : List α} {x : α}

/-- The parts of a split list have its elements, but none at which it is split. -/
theorem mem_and_eq_false_of_mem_splitOnP (h : part ∈ list.splitOnP p) (hx : x ∈ part) :
    x ∈ list ∧ p x = false := by
  induction list generalizing part with
  | nil =>
    rw [List.splitOnP_nil, List.mem_singleton] at h
    rw [h] at hx
    cases hx
  | cons first rest ih =>
    have hlater {later : List α} (hlater : later ∈ rest.splitOnP p) (hx : x ∈ later) :
        x ∈ first :: rest ∧ p x = false :=
      (ih hlater hx).imp_left (List.mem_cons_of_mem first)
    rw [List.splitOnP_cons_eq_if_modifyHead] at h
    split at h
    · rcases List.mem_cons.mp h with rfl | h
      · cases hx
      · exact hlater h hx
    · rename_i hfirst
      obtain ⟨head, tail, hsplit⟩ := List.exists_cons_of_ne_nil (List.splitOnP_ne_nil p rest)
      rw [hsplit, List.modifyHead_cons] at h
      rw [hsplit] at hlater
      rcases List.mem_cons.mp h with rfl | h
      · rcases List.mem_cons.mp hx with rfl | hx
        · exact ⟨List.mem_cons_self, Bool.eq_false_iff.mpr hfirst⟩
        · exact hlater List.mem_cons_self hx
      · exact hlater (List.mem_cons_of_mem head h) hx

/-- A list is known by its parts and by what stands between them. -/
theorem eq_of_splitOnP_eq (hparts : list.splitOnP p = other.splitOnP p)
    (hbetween : list.filter p = other.filter p) : list = other := by
  rw [← List.splitOnP_spec (p := p) list, hparts, hbetween, List.splitOnP_spec]

/-- Elements in front that belong to a part stand at the front of the first part. -/
theorem splitOnP_append (hpart : ∀ x ∈ part, p x = false) :
    (part ++ list).splitOnP p = (list.splitOnP p).modifyHead (part ++ ·) := by
  induction part with
  | nil =>
    obtain ⟨head, tail, hsplit⟩ := List.exists_cons_of_ne_nil (List.splitOnP_ne_nil p list)
    rw [List.nil_append, hsplit]
    rfl
  | cons first rest ih =>
    have hfirst : p first = false := hpart first List.mem_cons_self
    have hrest : ∀ x ∈ rest, p x = false := fun x hx => hpart x (List.mem_cons_of_mem first hx)
    rw [List.cons_append, List.splitOnP_cons_eq_if_modifyHead, hfirst, if_neg Bool.false_ne_true,
      ih hrest, List.modifyHead_modifyHead]
    rfl

/-- A list with an element that meets a condition has a last one. -/
theorem exists_last_of_exists (h : ∃ x ∈ list, p x = true) :
    ∃ head x tail, list = head ++ x :: tail ∧ p x = true ∧ ∀ y ∈ tail, p y = false := by
  obtain ⟨x, hx⟩ : ∃ x, list.reverse.find? p = some x := by
    rw [← Option.isSome_iff_exists, List.find?_isSome]
    exact h.imp fun x hx => ⟨List.mem_reverse.mpr hx.1, hx.2⟩
  obtain ⟨hp, front, rest, hreverse, hfront⟩ := List.find?_eq_some_iff_append.mp hx
  refine ⟨rest.reverse, x, front.reverse, ?_, hp, fun y hy => ?_⟩
  · rw [← List.reverse_reverse list, hreverse]
    simp
  · simpa using hfront y (List.mem_reverse.mp hy)

/-! ### Substitutions inside the parts -/

variable {f : α → List α}

/-- A substitution inside the parts keeps what stands between them. -/
theorem filter_flatMap_eq (hbetween : ∀ x, p x = true → f x = [x])
    (hparts : ∀ x, p x = false → ∀ y ∈ f x, p y = false) :
    (list.flatMap f).filter p = list.filter p := by
  induction list with
  | nil => rfl
  | cons first rest ih =>
    rw [List.flatMap_cons, List.filter_append, ih]
    cases hp : p first with
    | true => rw [hbetween first hp, List.filter_cons_of_pos hp, List.filter_cons_of_pos hp]; rfl
    | false =>
      have hnone : (f first).filter p = [] := by
        simpa [List.filter_eq_nil_iff] using hparts first hp
      rw [hnone, List.nil_append, List.filter_cons_of_neg (Bool.eq_false_iff.mp hp)]

/-- A substitution inside the parts acts on each part by itself. -/
theorem splitOnP_flatMap_eq (hbetween : ∀ x, p x = true → f x = [x])
    (hparts : ∀ x, p x = false → ∀ y ∈ f x, p y = false) :
    (list.flatMap f).splitOnP p = (list.splitOnP p).map (·.flatMap f) := by
  induction list with
  | nil => rfl
  | cons first rest ih =>
    rw [List.flatMap_cons, List.splitOnP_cons_eq_if_modifyHead]
    cases hp : p first with
    | true =>
      rw [hbetween first hp, List.singleton_append, List.splitOnP_cons_eq_if_modifyHead, hp, ih]
      rfl
    | false =>
      obtain ⟨head, tail, hsplit⟩ := List.exists_cons_of_ne_nil (List.splitOnP_ne_nil p rest)
      rw [splitOnP_append (hparts first hp), ih, hsplit]
      rfl

end Parts

/-! ### Replacements inside the parts -/

section Replacement

variable {p : Char → Bool} {old : Char} {new text : String}

/-- What a replacement puts for a character, where it leaves the characters between the parts. -/
private theorem replacement_inside (hold : p old = false) (hnew : new.toList.any p = false) :
    (∀ c, p c = true → (if c = old then new.toList else [c]) = [c]) ∧
      ∀ c, p c = false → ∀ d ∈ (if c = old then new.toList else [c]), p d = false := by
  refine ⟨fun c hc => if_neg ?_, fun c hc d hd => ?_⟩
  · rintro rfl
    rw [hold] at hc
    cases hc
  · split at hd
    · exact Bool.eq_false_iff.mpr (List.any_eq_false.mp hnew d hd)
    · rwa [List.mem_singleton.mp hd]

/-- A replacement inside the parts keeps what stands between them. -/
theorem filter_replaceChar (hold : p old = false) (hnew : new.toList.any p = false) :
    (replaceChar old new text).toList.filter p = text.toList.filter p := by
  obtain ⟨hbetween, hparts⟩ := replacement_inside hold hnew
  rw [toList_replaceChar, filter_flatMap_eq hbetween hparts]

/-- A replacement inside the parts acts on each part by itself. -/
theorem splitOnP_replaceChar (hold : p old = false) (hnew : new.toList.any p = false) :
    (replaceChar old new text).toList.splitOnP p = (text.toList.splitOnP p).map fun part =>
      part.flatMap fun c => if c = old then new.toList else [c] := by
  obtain ⟨hbetween, hparts⟩ := replacement_inside hold hnew
  rw [toList_replaceChar, splitOnP_flatMap_eq hbetween hparts]

end Replacement

end Nomenclator.Text
