import Mathlib.Tactic
import Nomenclator.Unicode.UppercaseMapping

/-!
# Capital forms

The capital form of a character brings in letters and marks of letters, and nothing from below the
basic Latin capitals (`eq_of_mem_uppercase`).

It may be several characters, but the first of them is a capital, which means that it is its own
capital form (`exists_uppercase_eq_cons`). For a letter that moves with its range this is a fact
about the table: the places that a range moves to are apart from all ranges that move
(`capitalCodes_of_shift?`). Capital and small letters often alternate, so ranges may be apart
although they overlap (`CodeRange.isApart`).
-/

namespace Nomenclator.Unicode

variable {code capital : ℕ} {c d : Char} {ranges : List ShiftedRange}

/-! ### Ranges that are apart -/

namespace CodeRange

variable {range first second : CodeRange}

theorem contains_iff :
    range.contains code = true ↔
      range.first ≤ code ∧ code ≤ range.last ∧ (code - range.first) % range.step = 0 := by
  simp [contains, and_assoc]

/-- Whether the code points of a range are all even or all odd. -/
def keepsParity (range : CodeRange) : Bool :=
  range.step % 2 == 0 || range.last == range.first

/-- Whether it shows that two ranges have no code point in common: one ends before the other begins,
or the code points of one are all even and those of the other are all odd. -/
def isApart (first second : CodeRange) : Bool :=
  second.last.blt first.first || first.last.blt second.first ||
    first.keepsParity && second.keepsParity && first.first % 2 != second.first % 2

theorem mod_two_eq_of_keepsParity (h : range.keepsParity = true)
    (hcontains : range.contains code = true) : code % 2 = range.first % 2 := by
  obtain ⟨hfirst, hlast, hstep⟩ := contains_iff.mp hcontains
  simp only [keepsParity, Bool.or_eq_true, beq_iff_eq] at h
  rcases h with heven | hsingle
  · have hdvd : 2 ∣ code - range.first :=
      (Nat.dvd_of_mod_eq_zero heven).trans (Nat.dvd_of_mod_eq_zero hstep)
    omega
  · have hcode : code = range.first := by omega
    rw [hcode]

theorem contains_eq_false_of_isApart (h : first.isApart second = true)
    (hcontains : first.contains code = true) : second.contains code = false := by
  rw [Bool.eq_false_iff]
  intro hboth
  obtain ⟨hfirst, hlast, -⟩ := contains_iff.mp hcontains
  obtain ⟨hfirst', hlast', -⟩ := contains_iff.mp hboth
  simp only [isApart, Bool.or_eq_true, Bool.and_eq_true, Nat.blt_eq, bne_iff_ne] at h
  rcases h with (hbefore | hafter) | ⟨⟨hparity, hparity'⟩, hne⟩
  · omega
  · omega
  · exact hne ((mod_two_eq_of_keepsParity hparity hcontains).symm.trans
      (mod_two_eq_of_keepsParity hparity' hboth))

/-- Whether it shows that no code point of a range moves with one of several ranges. These are in
the order of their first code points, and they are looked through as far as a lookup goes. -/
def staysApart (range : CodeRange) : List ShiftedRange → Bool
  | [] => true
  | shifted :: rest =>
    range.last.blt shifted.range.first || range.isApart shifted.range && range.staysApart rest

end CodeRange

/-! ### Ranges that move -/

/-- The places that the letters of a range move to. -/
def ShiftedRange.capitals (shifted : ShiftedRange) : CodeRange where
  first := shifted.target
  last := shifted.target + (shifted.range.last - shifted.range.first)
  step := shifted.range.step

/-- A letter moves to a place of the moved range. -/
theorem exists_capitals_contains_of_shift? (h : shift? ranges code = some capital) :
    ∃ shifted ∈ ranges, shifted.capitals.contains capital = true := by
  induction ranges with
  | nil => cases h
  | cons first rest ih =>
    rw [shift?] at h
    split at h
    · cases h
    · split at h
      · rename_i hcontains
        cases h
        obtain ⟨hfirst, hlast, hstep⟩ := CodeRange.contains_iff.mp hcontains
        refine ⟨first, List.mem_cons_self, CodeRange.contains_iff.mpr ⟨?_, ?_, ?_⟩⟩
        · exact Nat.le_add_right _ _
        · exact Nat.add_le_add_left (Nat.sub_le_sub_right hlast _) _
        · rw [ShiftedRange.capitals, Nat.add_sub_cancel_left]
          exact hstep
      · obtain ⟨shifted, hmem, hcapital⟩ := ih h
        exact ⟨shifted, List.mem_cons_of_mem first hmem, hcapital⟩

/-- A code point of a range that is apart from all ranges does not move. -/
theorem shift?_eq_none {range : CodeRange} (h : range.staysApart ranges = true)
    (hcontains : range.contains code = true) : shift? ranges code = none := by
  induction ranges with
  | nil => rfl
  | cons first rest ih =>
    simp only [CodeRange.staysApart, Bool.or_eq_true, Bool.and_eq_true, Nat.blt_eq] at h
    obtain ⟨-, hlast, -⟩ := CodeRange.contains_iff.mp hcontains
    rw [shift?]
    rcases h with hbeyond | ⟨hfirst, hrest⟩
    · exact if_pos (hlast.trans_lt hbeyond)
    · rw [CodeRange.contains_eq_false_of_isApart hfirst hcontains, ih hrest]
      split <;> rfl

/-! ### What a capital form brings in -/

/-- A code point that a capital form may bring in: a character from the basic Latin capitals on. -/
def IsCapitalCode (code : ℕ) : Prop :=
  0x41 ≤ code ∧ code.isValidChar

instance (code : ℕ) : Decidable (IsCapitalCode code) :=
  inferInstanceAs (Decidable (_ ∧ _))

/-- All moved ranges consist of characters from the basic Latin capitals on. -/
theorem isCapitalCode_of_shift? (h : shift? shiftedRanges code = some capital) :
    IsCapitalCode capital := by
  have htargets : ∀ shifted ∈ shiftedRanges, 0x41 ≤ shifted.capitals.first ∧
      (shifted.capitals.last < 0xD800 ∨
        0xDFFF < shifted.capitals.first ∧ shifted.capitals.last < 0x110000) := by
    decide +kernel
  obtain ⟨shifted, hmem, hcontains⟩ := exists_capitals_contains_of_shift? h
  obtain ⟨hlow, hhigh, -⟩ := CodeRange.contains_iff.mp hcontains
  obtain ⟨htarget, hvalid⟩ := htargets shifted hmem
  refine ⟨htarget.trans hlow, ?_⟩
  rcases hvalid with hvalid | hvalid
  · exact Or.inl (by omega)
  · exact Or.inr ⟨by omega, by omega⟩

/-- A code point is its own capital form, or it leads to other characters. -/
theorem eq_or_isCapitalCode_of_mem (h : capital ∈ capitalCodes code) :
    capital = code ∨ IsCapitalCode capital := by
  have hexpansions : ∀ expansion ∈ expansions, ∀ capital ∈ expansion.capital,
      IsCapitalCode capital := by
    decide +kernel
  rw [capitalCodes] at h
  split at h
  · rename_i shifted hshift
    rw [List.mem_singleton.mp h]
    exact Or.inr (isCapitalCode_of_shift? hshift)
  · split at h
    · rename_i expansion hfind
      exact Or.inr (hexpansions expansion (List.mem_of_find?_eq_some hfind) capital h)
    · exact Or.inl (List.mem_singleton.mp h)

/-- The code points of a capital form are those of characters. -/
theorem toNat_ofNat_of_mem (h : capital ∈ capitalCodes c.toNat) :
    (Char.ofNat capital).toNat = capital := by
  rcases eq_or_isCapitalCode_of_mem h with rfl | ⟨-, hvalid⟩
  · rw [Char.ofNat_toNat]
  · rw [Char.ofNat, dif_pos hvalid]
    rfl

/-- **A capital form brings in nothing from below the capitals.** -/
theorem eq_of_mem_uppercase (h : c ∈ uppercase d) (hlow : c.toNat < 0x41) : c = d := by
  obtain ⟨capital, hmem, rfl⟩ := List.mem_map.mp h
  rw [toNat_ofNat_of_mem hmem] at hlow
  rcases eq_or_isCapitalCode_of_mem hmem with rfl | ⟨hcapital, -⟩
  · exact Char.ofNat_toNat d
  · omega

/-! ### Capitals -/

/-- A letter that has moved is a capital. -/
theorem capitalCodes_of_shift? (h : shift? shiftedRanges code = some capital) :
    capitalCodes capital = [capital] := by
  have hranges : shiftedRanges.all (fun shifted => shifted.capitals.staysApart shiftedRanges) =
      true := by
    decide +kernel
  have hexpansions : shiftedRanges.all (fun shifted => expansions.all fun expansion =>
      shifted.capitals.isApart ⟨expansion.code, expansion.code, 1⟩) = true := by
    decide +kernel
  obtain ⟨shifted, hmem, hcontains⟩ := exists_capitals_contains_of_shift? h
  have hshift : shift? shiftedRanges capital = none :=
    shift?_eq_none (List.all_eq_true.mp hranges shifted hmem) hcontains
  have hfind : expansions.find? (·.code == capital) = none := by
    rw [List.find?_eq_none]
    intro expansion hexpansion hcode
    have hapart := List.all_eq_true.mp (List.all_eq_true.mp hexpansions shifted hmem) _ hexpansion
    have hnot := CodeRange.contains_eq_false_of_isApart hapart hcontains
    rw [← beq_iff_eq.mp hcode, Bool.eq_false_iff] at hnot
    exact hnot (CodeRange.contains_iff.mpr ⟨le_rfl, le_rfl, Nat.mod_one _⟩)
  rw [capitalCodes, hshift, hfind]

/-- A capital form begins with a capital. -/
theorem exists_capitalCodes_eq_cons (code : ℕ) :
    ∃ first rest, capitalCodes code = first :: rest ∧ capitalCodes first = [first] := by
  have hexpansions : ∀ expansion ∈ expansions, ∃ first ∈ expansion.capital.head?,
      capitalCodes first = [first] := by
    decide +kernel
  cases hshift : shift? shiftedRanges code with
  | some capital =>
    have hcodes : capitalCodes code = [capital] := by rw [capitalCodes, hshift]
    exact ⟨capital, [], hcodes, capitalCodes_of_shift? hshift⟩
  | none =>
    cases hfind : expansions.find? (·.code == code) with
    | some expansion =>
      have hcodes : capitalCodes code = expansion.capital := by rw [capitalCodes, hshift, hfind]
      obtain ⟨first, hhead, hfirst⟩ := hexpansions expansion (List.mem_of_find?_eq_some hfind)
      obtain ⟨rest, hcapital⟩ := List.head?_eq_some_iff.mp hhead
      exact ⟨first, rest, hcodes.trans hcapital, hfirst⟩
    | none =>
      have hcodes : capitalCodes code = [code] := by rw [capitalCodes, hshift, hfind]
      exact ⟨code, [], hcodes, hcodes⟩

/-- **A capital form begins with a character that is its own capital form.** -/
theorem exists_uppercase_eq_cons (c : Char) :
    ∃ first rest, uppercase c = first :: rest ∧ uppercase first = [first] := by
  obtain ⟨capital, rest, hcodes, hcapital⟩ := exists_capitalCodes_eq_cons c.toNat
  have hmem : capital ∈ capitalCodes c.toNat := hcodes ▸ List.mem_cons_self
  refine ⟨Char.ofNat capital, rest.map Char.ofNat, ?_, ?_⟩
  · rw [uppercase, hcodes, List.map_cons]
  · rw [uppercase, toNat_ofNat_of_mem hmem, hcapital]
    rfl

end Nomenclator.Unicode
