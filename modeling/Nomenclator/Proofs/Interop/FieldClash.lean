import Nomenclator.Proofs.Interop.FieldName

/-!
# Fields that get the same name

A field without a dollar sign in its name gets one of three kinds of names: with the filler in front,
with the suffix at the end, or its own. No reserved name begins with an ownership word, so no name
gets both. A name with the filler never looks like a reserved name with its suffix, and so two
fields of different kinds clash only where one of them has the filler or the suffix already in the
name it was given.

Names with the suffix are different when they come from different names. Names with the filler are
not: title case takes away the case of the first letter, and `newId` and `NewId` both become
`theNewId`. Ownership words begin with basic Latin letters, so this is the only letter that can
differ (`titleCase_eq_titleCase_iff`). Together that is every clash there is.
-/

namespace Nomenclator.Interop

open Identifier (forbiddenSuffix)
open Text (isPrefix_of_startsWithWord lowerByte map_toLower_head?_of_startsWithWord startsWithWord
  titleCase toList_titleCase toNat_toLower_lt_iff toUpper_eq_toUpper_iff uppercase_of_latin
  utf8Bytes utf8Bytes_append)

variable {first second name reserved : String}

/-! ### Title case after an ownership word -/

/-- Two names that are equal, but for the case of a basic Latin letter at the beginning. -/
def EqualUpToFirstCase (first second : String) : Prop :=
  ∃ c d rest, first.toList = c :: rest ∧ second.toList = d :: rest ∧ c.toLower = d.toLower

/-- Ownership words are written in basic Latin letters. -/
theorem toNat_lt_of_mem_ownershipWords {word : String} (hword : word ∈ ownershipWords) {c : Char}
    (hc : c ∈ word.toList) : c.toNat < 128 := by
  have hwords : ∀ word ∈ ownershipWords, word.toList.all (·.toNat < 128) = true := by
    decide
  exact of_decide_eq_true (List.all_eq_true.mp (hwords word hword) c hc)

/-- A name that begins with an ownership word begins with a basic Latin letter. -/
theorem exists_latin_of_hasOwnershipWord (h : hasOwnershipWord name = true) :
    ∃ c rest, name.toList = c :: rest ∧ c.toNat < 128 := by
  have hwords : ∀ word ∈ ownershipWords, word ≠ "" := by
    decide
  obtain ⟨word, hword, hstart⟩ := List.any_eq_true.mp h
  have hne := hwords word hword
  have hhead := map_toLower_head?_of_startsWithWord hstart hne
  obtain ⟨d, others, hd⟩ := List.exists_cons_of_ne_nil (String.toList_eq_nil_iff.not.mpr hne)
  have hlatin : d.toNat < 128 := toNat_lt_of_mem_ownershipWords hword (hd ▸ List.mem_cons_self)
  cases hname : name.toList with
  | nil =>
    rw [hname, hd] at hhead
    cases hhead
  | cons c rest =>
    rw [hname, hd] at hhead
    refine ⟨c, rest, rfl, toNat_toLower_lt_iff.mp ?_⟩
    rw [Option.some.inj hhead]
    exact toNat_toLower_lt_iff.mpr hlatin

/-- **After an ownership word, title case takes away the case of the first letter only.** -/
theorem titleCase_eq_titleCase_iff (hfirst : hasOwnershipWord first = true)
    (hsecond : hasOwnershipWord second = true) :
    titleCase first = titleCase second ↔ EqualUpToFirstCase first second := by
  obtain ⟨c, rest, hc, hclatin⟩ := exists_latin_of_hasOwnershipWord hfirst
  obtain ⟨d, other, hd, hdlatin⟩ := exists_latin_of_hasOwnershipWord hsecond
  have hcapital {name : String} {c : Char} {rest : List Char} (hname : name.toList = c :: rest)
      (hlatin : c.toNat < 128) : (titleCase name).toList = c.toUpper :: rest := by
    rw [toList_titleCase hname, uppercase_of_latin hlatin]
    rfl
  rw [← String.toList_inj, hcapital hc hclatin, hcapital hd hdlatin, List.cons.injEq,
    toUpper_eq_toUpper_iff]
  constructor
  · rintro ⟨hcase, rfl⟩
    exact ⟨c, d, rest, hc, hd, hcase⟩
  · rintro ⟨c', d', rest', hc', hd', hcase⟩
    rw [hc'] at hc
    rw [hd'] at hd
    cases hc
    cases hd
    exact ⟨hcase, rfl⟩

/-! ### Reserved names -/

/-- No reserved name begins with an ownership word. -/
theorem hasOwnershipWord_of_isReserved (h : isReserved reserved = true) :
    hasOwnershipWord reserved = false := by
  -- none has the letters of a word at its beginning, in bytes and whatever follows
  have htable : ∀ reserved ∈ Reserved.names, ∀ word ∈ ownershipWords,
      ¬(utf8Bytes word).map lowerByte <+: (utf8Bytes reserved).map lowerByte := by
    decide +kernel
  rw [hasOwnershipWord_eq_false_iff]
  intro word hword
  rw [Bool.eq_false_iff]
  intro hstart
  exact htable reserved (List.contains_iff_mem.mp h) word hword (isPrefix_of_startsWithWord hstart)

/-- Neither a reserved name nor one with its suffix begins with the filler. -/
theorem filler_append_ne (h : isReserved reserved = true) (text : String) :
    fieldFiller ++ text ≠ reserved ++ forbiddenSuffix ∧ fieldFiller ++ text ≠ reserved := by
  have htable : ∀ reserved ∈ Reserved.names,
      ¬utf8Bytes fieldFiller <+: utf8Bytes reserved ++ utf8Bytes forbiddenSuffix := by
    decide +kernel
  have hnot := htable reserved (List.contains_iff_mem.mp h)
  constructor
  · intro heq
    refine hnot ?_
    rw [← utf8Bytes_append, ← heq, utf8Bytes_append]
    exact List.prefix_append _ _
  · rintro rfl
    refine hnot ?_
    rw [utf8Bytes_append, List.append_assoc]
    exact List.prefix_append _ _

/-- No name with the filler is reserved. -/
theorem isReserved_filler (text : String) : isReserved (fieldFiller ++ text) = false := by
  rw [Bool.eq_false_iff]
  intro h
  exact (filler_append_ne h text).2 rfl

/-! ### The three kinds of names -/

theorem fieldName_of_hasOwnershipWord (h : hasOwnershipWord (dollarFree name) = true) :
    fieldName name = fieldFiller ++ titleCase (dollarFree name) := by
  rw [fieldName, fillerName, if_pos h, unreservedName, isReserved_filler,
    if_neg Bool.false_ne_true]

theorem fieldName_of_isReserved (h : isReserved (dollarFree name) = true) :
    fieldName name = dollarFree name ++ forbiddenSuffix := by
  rw [fieldName, fillerName, hasOwnershipWord_of_isReserved h, if_neg Bool.false_ne_true,
    unreservedName, if_pos h]

theorem fieldName_of_eq_false (hword : hasOwnershipWord (dollarFree name) = false)
    (hreserved : isReserved (dollarFree name) = false) : fieldName name = dollarFree name := by
  rw [fieldName, fillerName, hword, if_neg Bool.false_ne_true, unreservedName, hreserved,
    if_neg Bool.false_ne_true]

/-- The way in which a field gets its name. -/
inductive FieldKind (name : String) : Prop
  | filled (hword : hasOwnershipWord (dollarFree name) = true)
      (h : fieldName name = fieldFiller ++ titleCase (dollarFree name))
  | suffixed (hreserved : isReserved (dollarFree name) = true)
      (h : fieldName name = dollarFree name ++ forbiddenSuffix)
  | unchanged (h : fieldName name = dollarFree name)

theorem fieldKind (name : String) : FieldKind name := by
  cases hword : hasOwnershipWord (dollarFree name) with
  | true => exact .filled hword (fieldName_of_hasOwnershipWord hword)
  | false =>
    cases hreserved : isReserved (dollarFree name) with
    | true => exact .suffixed hreserved (fieldName_of_isReserved hreserved)
    | false => exact .unchanged (fieldName_of_eq_false hword hreserved)

/-! ### Clashes -/

/-- A name that begins with an ownership word, and the name with the filler that it becomes. -/
def FillerClash (first second : String) : Prop :=
  hasOwnershipWord first = true ∧ second = "the" ++ titleCase first

/-- A reserved name, and the name with the suffix that it becomes. -/
def SuffixClash (first second : String) : Prop :=
  first ∈ Reserved.names ∧ second = first ++ "__"

theorem FillerClash.fieldName_eq (h : FillerClash (dollarFree first) (dollarFree second)) :
    fieldName first = fieldName second := by
  obtain ⟨hword, hsecond⟩ := h
  have hsafe : fieldName second = dollarFree second := by
    refine fieldName_of_eq_false ?_ ?_
    · rw [hsecond]
      exact hasOwnershipWord_filler _
    · rw [hsecond]
      exact isReserved_filler _
  rw [fieldName_of_hasOwnershipWord hword, hsafe]
  exact hsecond.symm

theorem SuffixClash.fieldName_eq (h : SuffixClash (dollarFree first) (dollarFree second)) :
    fieldName first = fieldName second := by
  obtain ⟨hmem, hsecond⟩ := h
  have hreserved : isReserved (dollarFree first) = true := List.contains_iff_mem.mpr hmem
  have hsafe : fieldName second = dollarFree second := by
    refine fieldName_of_eq_false ?_ ?_
    · rw [hsecond]
      exact hasOwnershipWord_append_suffix (hasOwnershipWord_of_isReserved hreserved)
    · rw [hsecond]
      exact isReserved_append_suffix _
  rw [fieldName_of_isReserved hreserved, hsafe]
  exact hsecond.symm

/-- **Exactly these fields get the same name.** With underscores for dollar signs, their names are
equal; or both begin with an ownership word and differ only in the case of the first letter; or one
begins with an ownership word and the other one is its title case after the filler; or one is
reserved and the other one is that name with the suffix. -/
theorem field_names_clash_iff (first second : String) :
    fieldName first = fieldName second ↔
      dollarFree first = dollarFree second ∨
      hasOwnershipWord (dollarFree first) = true ∧ hasOwnershipWord (dollarFree second) = true ∧
        EqualUpToFirstCase (dollarFree first) (dollarFree second) ∨
      (FillerClash (dollarFree first) (dollarFree second) ∨
        FillerClash (dollarFree second) (dollarFree first)) ∨
      SuffixClash (dollarFree first) (dollarFree second) ∨
        SuffixClash (dollarFree second) (dollarFree first) := by
  constructor
  · intro heq
    cases fieldKind first with
    | filled hfirst h =>
      rw [h] at heq
      cases fieldKind second with
      | filled hsecond h' =>
        have htitle := (String.append_right_inj _).mp (heq.trans h')
        have hcase := (titleCase_eq_titleCase_iff hfirst hsecond).mp htitle
        exact Or.inr (Or.inl ⟨hfirst, hsecond, hcase⟩)
      | suffixed hsecond h' => exact absurd (heq.trans h') (filler_append_ne hsecond _).1
      | unchanged h' => exact Or.inr (Or.inr (Or.inl (Or.inl ⟨hfirst, (heq.trans h').symm⟩)))
    | suffixed hfirst h =>
      rw [h] at heq
      have hmem := List.contains_iff_mem.mp hfirst
      cases fieldKind second with
      | filled _ h' => exact absurd (heq.trans h').symm (filler_append_ne hfirst _).1
      | suffixed _ h' => exact Or.inl ((String.append_left_inj _).mp (heq.trans h'))
      | unchanged h' => exact Or.inr (Or.inr (Or.inr (Or.inl ⟨hmem, (heq.trans h').symm⟩)))
    | unchanged h =>
      rw [h] at heq
      cases fieldKind second with
      | filled hsecond h' => exact Or.inr (Or.inr (Or.inl (Or.inr ⟨hsecond, heq.trans h'⟩)))
      | suffixed hsecond h' =>
        have hmem := List.contains_iff_mem.mp hsecond
        exact Or.inr (Or.inr (Or.inr (Or.inr ⟨hmem, heq.trans h'⟩)))
      | unchanged h' => exact Or.inl (heq.trans h')
  · rintro (hsame | ⟨hfirst, hsecond, hcase⟩ | (h | h) | h | h)
    · rw [fieldName, hsame]
      rfl
    · rw [fieldName_of_hasOwnershipWord hfirst, fieldName_of_hasOwnershipWord hsecond,
        (titleCase_eq_titleCase_iff hfirst hsecond).mpr hcase]
    · exact h.fieldName_eq
    · exact h.fieldName_eq.symm
    · exact h.fieldName_eq
    · exact h.fieldName_eq.symm

end Nomenclator.Interop
