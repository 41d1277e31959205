import Mathlib.Tactic
import Nomenclator.Identifier

/-!
# Names that are written alike

A name without dollar signs has one of three spellings: with a suffix, in backticks, or unchanged.
Backticks keep a spelling out of the identifier grammar, so it is never that of a name written in
one of the other two ways. Each way by itself keeps different names different. What is left is a
forbidden keyword and the name that already has the suffix: `class` and `class__` are written alike,
and no others are (`protect_eq_protect_iff`).

Dollar signs are replaced before all that. So `a$b` and `a___b` are written alike too, and there is
no other ambiguity (`written_alike_iff`).
-/

namespace Nomenclator.Identifier

variable {first second name text : String}

/-! ### The three spellings -/

/-- A name that is written in backticks: it is not a forbidden keyword, but a hard one or no
identifier at all. -/
structure NeedsQuotes (name : String) : Prop where
  isForbiddenKeyword_eq_false : isForbiddenKeyword name = false
  hard_or_invalid : isHardKeyword name = true ∨ isValid name = false

/-- A name that is written as it is: an identifier that no table of keywords lists. -/
structure IsPlain (name : String) : Prop where
  isValid_eq_true : isValid name = true
  isHardKeyword_eq_false : isHardKeyword name = false
  isForbiddenKeyword_eq_false : isForbiddenKeyword name = false

/-- A name is a forbidden keyword, or it needs backticks, or it can be written as it is. -/
theorem isForbiddenKeyword_or_needsQuotes_or_isPlain (name : String) :
    isForbiddenKeyword name = true ∨ NeedsQuotes name ∨ IsPlain name := by
  cases hforbidden : isForbiddenKeyword name with
  | true => exact Or.inl rfl
  | false =>
    cases hhard : isHardKeyword name with
    | true => exact Or.inr (Or.inl ⟨hforbidden, Or.inl hhard⟩)
    | false =>
      cases hvalid : isValid name with
      | true => exact Or.inr (Or.inr ⟨hvalid, hhard, hforbidden⟩)
      | false => exact Or.inr (Or.inl ⟨hforbidden, Or.inr hvalid⟩)

theorem protect_of_isForbiddenKeyword (h : isForbiddenKeyword name = true) :
    protect name = name ++ forbiddenSuffix :=
  if_pos h

theorem NeedsQuotes.protect_eq (h : NeedsQuotes name) : protect name = quoted name := by
  have hquoted : (isHardKeyword name || !isValid name) = true := by
    simpa using h.hard_or_invalid
  rw [protect, h.isForbiddenKeyword_eq_false, if_neg Bool.false_ne_true, if_pos hquoted]

theorem IsPlain.protect_eq (h : IsPlain name) : protect name = name := by
  rw [protect, h.isForbiddenKeyword_eq_false, h.isHardKeyword_eq_false, h.isValid_eq_true]
  rfl

/-- A text in backticks is outside the identifier grammar. -/
theorem isValid_quoted (name : String) : isValid (quoted name) = false := by
  have hlist : (quoted name).toList = '`' :: (name ++ "`").toList := by
    rw [quoted, String.append_assoc, String.toList_append]
    rfl
  have hstart : isIdentifierStart '`' = false := by decide
  simp only [isValid, hlist, hstart, Bool.false_and]

theorem quoted_injective : Function.Injective quoted := by
  intro first second h
  rw [quoted, quoted] at h
  exact (String.append_right_inj _).mp ((String.append_left_inj _).mp h)

/-- A forbidden keyword with its suffix is an ordinary identifier. -/
theorem isPlain_append_suffix (h : isForbiddenKeyword name = true) :
    IsPlain (name ++ forbiddenSuffix) := by
  have hall : ∀ keyword ∈ forbiddenKeywords, isValid (keyword ++ forbiddenSuffix) = true ∧
      isHardKeyword (keyword ++ forbiddenSuffix) = false ∧
        isForbiddenKeyword (keyword ++ forbiddenSuffix) = false := by decide +kernel
  obtain ⟨hvalid, hhard, hforbidden⟩ := hall name (List.contains_iff_mem.mp h)
  exact ⟨hvalid, hhard, hforbidden⟩

/-- A spelling in backticks is that of a name that needs them, and the name stands between them. -/
theorem protect_eq_quoted_iff : protect name = quoted text ↔ NeedsQuotes name ∧ name = text := by
  constructor
  · intro h
    -- the other two spellings are identifiers
    have hplain (hspelling : IsPlain (protect name)) : False := by
      have hvalid := hspelling.isValid_eq_true
      rw [h, isValid_quoted] at hvalid
      cases hvalid
    rcases isForbiddenKeyword_or_needsQuotes_or_isPlain name with hname | hname | hname
    · rw [protect_of_isForbiddenKeyword hname] at hplain
      exact (hplain (isPlain_append_suffix hname)).elim
    · rw [hname.protect_eq] at h
      exact ⟨hname, quoted_injective h⟩
    · rw [hname.protect_eq] at hplain
      exact (hplain hname).elim
  · rintro ⟨hname, rfl⟩
    exact hname.protect_eq

/-- The way in which a name is written. -/
inductive Spelled (name : String) : Prop
  | suffixed (hname : isForbiddenKeyword name = true)
      (h : protect name = name ++ forbiddenSuffix)
  | quoted (h : protect name = quoted name)
  | unchanged (hvalid : isValid name = true) (h : protect name = name)

theorem spelled (name : String) : Spelled name := by
  rcases isForbiddenKeyword_or_needsQuotes_or_isPlain name with hname | hname | hname
  · exact .suffixed hname (protect_of_isForbiddenKeyword hname)
  · exact .quoted hname.protect_eq
  · exact .unchanged hname.isValid_eq_true hname.protect_eq

/-! ### Collisions -/

/-- A forbidden keyword and the name that has its suffix are written alike. -/
def KeywordCollision (first second : String) : Prop :=
  isForbiddenKeyword first = true ∧ second = first ++ forbiddenSuffix

theorem KeywordCollision.protect_eq (h : KeywordCollision first second) :
    protect first = protect second := by
  obtain ⟨hfirst, rfl⟩ := h
  rw [(isPlain_append_suffix hfirst).protect_eq]
  exact protect_of_isForbiddenKeyword hfirst

/-- No keyword has an underscore. -/
theorem not_keywordCollision_of_underscore (h : '_' ∈ first.toList) :
    ¬KeywordCollision first second := by
  have hall : ∀ keyword ∈ forbiddenKeywords, '_' ∉ keyword.toList := by decide
  exact fun hcollision => hall first (List.contains_iff_mem.mp hcollision.1) h

/-- **Two names without dollar signs are written alike only if they are equal** or one is a
forbidden keyword and the other one has the suffix already. -/
theorem protect_eq_protect_iff :
    protect first = protect second ↔
      first = second ∨ KeywordCollision first second ∨ KeywordCollision second first := by
  constructor
  · intro heq
    -- a spelling in backticks differs from every other one in being outside the grammar
    have hquoted {name : String} {text : String} (hvalid : isValid text = true) :
        text ≠ quoted name := by
      rintro rfl
      rw [isValid_quoted] at hvalid
      cases hvalid
    cases spelled first with
    | suffixed hfirst h =>
      have hvalid := (isPlain_append_suffix hfirst).isValid_eq_true
      rw [h] at heq
      cases spelled second with
      | suffixed _ h' => exact Or.inl ((String.append_left_inj _).mp (heq.trans h'))
      | quoted h' => exact absurd (heq.trans h') (hquoted hvalid)
      | unchanged _ h' => exact Or.inr (Or.inl ⟨hfirst, (heq.trans h').symm⟩)
    | quoted h =>
      rw [h] at heq
      cases spelled second with
      | suffixed hsecond h' =>
        have hvalid := (isPlain_append_suffix hsecond).isValid_eq_true
        exact absurd (heq.trans h').symm (hquoted hvalid)
      | quoted h' => exact Or.inl (quoted_injective (heq.trans h'))
      | unchanged hvalid h' => exact absurd (heq.trans h').symm (hquoted hvalid)
    | unchanged hvalid h =>
      rw [h] at heq
      cases spelled second with
      | suffixed hsecond h' => exact Or.inr (Or.inr ⟨hsecond, heq.trans h'⟩)
      | quoted h' => exact absurd (heq.trans h') (hquoted hvalid)
      | unchanged _ h' => exact Or.inl (heq.trans h')
  · rintro (rfl | h | h)
    · rfl
    · exact h.protect_eq
    · exact h.protect_eq.symm

/-! ### Names with dollar signs -/

/-- The name with its dollar signs replaced. -/
def undollared (name : String) : String :=
  Text.replaceChar '$' dollarReplacement name

theorem sanitize_eq_protect (name : String) : sanitize name = protect (undollared name) := rfl

theorem undollared_of_notMem (h : '$' ∉ name.toList) : undollared name = name :=
  Text.replaceChar_of_notMem h

theorem dollar_notMem_undollared (name : String) : '$' ∉ (undollared name).toList :=
  Text.notMem_replaceChar (by decide) name

/-- What is written in backticks is a name that needs them, without its dollar signs. -/
theorem sanitize_eq_quoted_iff :
    sanitize name = quoted text ↔ NeedsQuotes (undollared name) ∧ undollared name = text :=
  protect_eq_quoted_iff

/-- **The names that are written alike.** Two names are written alike exactly if they are equal once
their dollar signs are replaced, or if one of them is then a forbidden keyword and the other one
this keyword with its suffix. So a name in backticks is never written like one without, and two
names in backticks are written alike only if they are equal up to their dollar signs. -/
theorem written_alike_iff (first second : String) :
    (sanitize first = sanitize second ↔
      undollared first = undollared second ∨
        KeywordCollision (undollared first) (undollared second) ∨
          KeywordCollision (undollared second) (undollared first)) ∧
    (NeedsQuotes (undollared first) → ¬NeedsQuotes (undollared second) →
      sanitize first ≠ sanitize second) ∧
    (NeedsQuotes (undollared first) → NeedsQuotes (undollared second) →
      sanitize first = sanitize second → undollared first = undollared second) := by
  -- the spelling in backticks is known, so both names can be read off it
  have hquoted (hfirst : NeedsQuotes (undollared first)) (heq : sanitize first = sanitize second) :
      NeedsQuotes (undollared second) ∧ undollared second = undollared first := by
    rw [← sanitize_eq_quoted_iff, ← heq]
    exact sanitize_eq_quoted_iff.mpr ⟨hfirst, rfl⟩
  refine ⟨protect_eq_protect_iff, ?_, ?_⟩
  · intro hfirst hsecond heq
    exact hsecond (hquoted hfirst heq).1
  · intro hfirst _ heq
    exact (hquoted hfirst heq).2.symm

/-- A keyword is written like its suffixed form if it is forbidden, not if it is a hard one. -/
theorem written_alike_iff_keywords :
    sanitize "a$b" = sanitize "a___b" ∧ sanitize "class" = sanitize "class__" ∧
      sanitize "object" ≠ sanitize "object__" := by
  have hobject : NeedsQuotes (undollared "object") := ⟨by decide, Or.inl (by decide)⟩
  have hsuffixed : ¬NeedsQuotes (undollared "object__") :=
    fun h => absurd h.hard_or_invalid (by decide +kernel)
  refine ⟨?_, ?_, (written_alike_iff _ _).2.1 hobject hsuffixed⟩
  · exact (written_alike_iff _ _).1.mpr (Or.inl (by decide))
  · exact (written_alike_iff _ _).1.mpr (Or.inr (Or.inl ⟨by decide, by decide⟩))

end Nomenclator.Identifier
