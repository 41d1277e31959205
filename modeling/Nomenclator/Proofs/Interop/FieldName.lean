import Nomenclator.Interop.FieldName
import Nomenclator.Proofs.Text.Casing

/-!
# Names of fields are safe

The name of a field is made in three steps, and no step brings back what an earlier one took out.
Title case adds no dollar sign. The filler begins with a letter with which no ownership word begins.
The suffix adds underscores, which are in no ownership word and no small letters, and no reserved
name ends with it. So a name is safe after the last step (`isSafe_fieldName`), and all three steps
leave a safe name as it is (`IsSafe.fieldName_eq`).
-/

namespace Nomenclator.Interop

open Identifier (forbiddenSuffix)
open Text (mem_of_mem_titleCase map_toLower_head?_of_startsWithWord startsWithWord
  startsWithWord_of_append utf8Bytes utf8Bytes_append)

variable {name : String}

/-- A name that needs no change: it has no dollar sign, it is not reserved, and it does not begin
with an ownership word. -/
structure IsSafe (name : String) : Prop where
  dollar_notMem : '$' ∉ name.toList
  not_ownershipWord : hasOwnershipWord name = false
  not_reserved : isReserved name = false

/-- A safe name is the name of its field. -/
theorem IsSafe.fieldName_eq (h : IsSafe name) : fieldName name = name := by
  have hdollar : dollarFree name = name := Text.replaceChar_of_notMem h.dollar_notMem
  rw [fieldName, hdollar, fillerName, if_neg (Bool.eq_false_iff.mp h.not_ownershipWord),
    unreservedName, if_neg (Bool.eq_false_iff.mp h.not_reserved)]

/-! ### Ownership words -/

theorem hasOwnershipWord_eq_false_iff :
    hasOwnershipWord name = false ↔ ∀ word ∈ ownershipWords, startsWithWord name word = false := by
  simp [hasOwnershipWord]

/-- No ownership word begins like the filler. -/
theorem hasOwnershipWord_filler (text : String) : hasOwnershipWord (fieldFiller ++ text) = false := by
  have hwords : ∀ word ∈ ownershipWords,
      word ≠ "" ∧ word.toList.head?.map Char.toLower ≠ some 't' := by
    decide
  rw [hasOwnershipWord_eq_false_iff]
  intro word hword
  obtain ⟨hne, hhead⟩ := hwords word hword
  rw [Bool.eq_false_iff]
  intro h
  have hfirst : (fieldFiller ++ text).toList.head?.map Char.toLower = some 't' := by
    rw [String.toList_append]
    rfl
  exact hhead ((map_toLower_head?_of_startsWithWord h hne).symm.trans hfirst)

/-- The suffix completes no ownership word. -/
theorem hasOwnershipWord_append_suffix (h : hasOwnershipWord name = false) :
    hasOwnershipWord (name ++ forbiddenSuffix) = false := by
  have hwords : ∀ word ∈ ownershipWords, '_'.toLower ∉ word.toList.map Char.toLower := by
    decide
  have hsuffix : forbiddenSuffix.toList = List.replicate 2 '_' := rfl
  rw [hasOwnershipWord_eq_false_iff] at h ⊢
  intro word hword
  rw [Bool.eq_false_iff]
  intro hlong
  have hshort : startsWithWord name word = true := by
    refine startsWithWord_of_append hlong fun c hc => ?_
    rw [hsuffix] at hc
    rw [List.eq_of_mem_replicate hc]
    exact hwords word hword
  rw [h word hword] at hshort
  cases hshort

/-- With the filler where it is needed, no name begins with an ownership word. -/
theorem hasOwnershipWord_fillerName (name : String) : hasOwnershipWord (fillerName name) = false := by
  rw [fillerName]
  split
  · exact hasOwnershipWord_filler _
  · rename_i h
    exact Bool.eq_false_iff.mpr h

/-! ### Reserved names -/

/-- No reserved name ends with the suffix. -/
theorem isReserved_append_suffix (name : String) : isReserved (name ++ forbiddenSuffix) = false := by
  -- the table is looked through in bytes, which evaluate faster than characters
  have htable : ∀ reserved ∈ Reserved.names, ¬utf8Bytes forbiddenSuffix <:+ utf8Bytes reserved := by
    decide +kernel
  rw [isReserved, Bool.eq_false_iff]
  intro h
  refine htable _ (List.contains_iff_mem.mp h) ?_
  rw [utf8Bytes_append]
  exact List.suffix_append _ _

/-- With the suffix where it is needed, no name is reserved. -/
theorem isReserved_unreservedName (name : String) : isReserved (unreservedName name) = false := by
  rw [unreservedName]
  split
  · exact isReserved_append_suffix name
  · rename_i h
    exact Bool.eq_false_iff.mpr h

/-! ### Safe names -/

theorem dollar_notMem_fillerName (h : '$' ∉ name.toList) : '$' ∉ (fillerName name).toList := by
  rw [fillerName]
  split
  · rw [String.toList_append, List.mem_append, not_or]
    exact ⟨by decide, fun hmem => h (mem_of_mem_titleCase hmem (by decide))⟩
  · exact h

/-- The last step keeps what the first two have reached. -/
theorem isSafe_unreservedName (hdollar : '$' ∉ name.toList)
    (hownership : hasOwnershipWord name = false) : IsSafe (unreservedName name) := by
  refine ⟨?_, ?_, isReserved_unreservedName name⟩
  · rw [unreservedName]
    split
    · rw [String.toList_append, List.mem_append, not_or]
      exact ⟨hdollar, by decide⟩
    · exact hdollar
  · rw [unreservedName]
    split
    · exact hasOwnershipWord_append_suffix hownership
    · exact hownership

/-- **The name of a field is safe.** -/
theorem isSafe_fieldName (name : String) : IsSafe (fieldName name) := by
  have hdollar : '$' ∉ (dollarFree name).toList := Text.notMem_replaceChar (by decide) name
  exact isSafe_unreservedName (dollar_notMem_fillerName hdollar) (hasOwnershipWord_fillerName _)

example : fieldName "new$Id" = "theNew_Id" ∧ fieldName "YES" = "YES__" := by decide +kernel

/-- **Names of fields are safe and stable.** The name of a field is not reserved, it has no dollar
sign, and it does not begin with any of the words that announce ownership. So a field that already
has such a name keeps it. -/
theorem field_names_safe_and_stable (name : String) :
    fieldName name ∉ Reserved.names ∧ '$' ∉ (fieldName name).toList ∧
      (∀ word ∈ ["new", "copy", "alloc", "init", "mutableCopy"],
        startsWithWord (fieldName name) word = false) ∧
      fieldName (fieldName name) = fieldName name := by
  have hsafe := isSafe_fieldName name
  refine ⟨?_, hsafe.dollar_notMem, hasOwnershipWord_eq_false_iff.mp hsafe.not_ownershipWord,
    hsafe.fieldName_eq⟩
  intro hmem
  exact Bool.eq_false_iff.mp hsafe.not_reserved (List.contains_iff_mem.mpr hmem)

end Nomenclator.Interop
