import Nomenclator.Proofs.Identifier.Collision

/-!
# What a sanitized name looks like

A sanitized name is an identifier that no table of keywords lists, or it is a name in backticks that
could not be written without them. Every text of one of these forms is the spelling of some name,
and the identifiers among them are the names that sanitizing leaves as they are
(`sanitized_forms_exact`).

An identifier has no dollar sign, so it is its own name. A text in backticks is the spelling of the
name between them, and never its own.
-/

namespace Nomenclator.Identifier

variable {name text : String} {c : Char}

/-! ### Identifiers and texts in backticks -/

/-- An identifier has identifier characters only. -/
theorem isIdentifierChar_of_isValid (h : isValid text = true) (hc : c ∈ text.toList) :
    isIdentifierChar c = true := by
  rw [isValid] at h
  split at h
  · cases h
  · rename_i first rest hchars
    obtain ⟨hfirst, hrest⟩ := Bool.and_eq_true_iff.mp h
    rw [hchars] at hc
    rcases List.mem_cons.mp hc with rfl | hc
    · exact (Bool.and_eq_true_iff.mp hfirst).1
    · exact List.all_eq_true.mp hrest c hc

/-- An identifier has no dollar sign. -/
theorem dollar_notMem_of_isValid (h : isValid text = true) : '$' ∉ text.toList := by
  have hdollar : isIdentifierChar '$' = false := by decide +kernel
  intro hmem
  rw [isIdentifierChar_of_isValid h hmem] at hdollar
  cases hdollar

theorem quoted_ne_self (text : String) : quoted text ≠ text := by
  intro h
  have hlength := congrArg String.length h
  rw [quoted, String.length_append, String.length_append] at hlength
  have hmark : "`".length = 1 := rfl
  omega

theorem dollar_mem_quoted_iff : '$' ∈ (quoted text).toList ↔ '$' ∈ text.toList := by
  have hmark : '$' ∉ "`".toList := by decide
  rw [quoted, String.toList_append, String.toList_append, List.mem_append, List.mem_append,
    or_iff_left hmark, or_iff_right hmark]

/-! ### The two forms -/

/-- A name in backticks that cannot be written without them. -/
def IsQuotedForm (text : String) : Prop :=
  ∃ inner, text = quoted inner ∧ '$' ∉ inner.toList ∧ NeedsQuotes inner

theorem IsQuotedForm.dollar_notMem (h : IsQuotedForm text) : '$' ∉ text.toList := by
  obtain ⟨inner, rfl, hdollar, -⟩ := h
  rwa [dollar_mem_quoted_iff]

/-- A text in backticks is outside the grammar of identifiers. -/
theorem IsQuotedForm.not_isPlain (h : IsQuotedForm text) : ¬IsPlain text := by
  obtain ⟨inner, rfl, -⟩ := h
  intro hplain
  have hvalid := hplain.isValid_eq_true
  rw [isValid_quoted] at hvalid
  cases hvalid

/-- An identifier that is not listed is its own spelling. -/
theorem sanitize_of_isPlain (h : IsPlain text) : sanitize text = text := by
  have hdollar := dollar_notMem_of_isValid h.isValid_eq_true
  rw [sanitize_eq_protect, undollared_of_notMem hdollar, h.protect_eq]

/-- A text in backticks is the spelling of the name between them. -/
theorem exists_sanitize_eq_of_isQuotedForm (h : IsQuotedForm text) :
    ∃ name, sanitize name = text := by
  obtain ⟨inner, rfl, hdollar, hquotes⟩ := h
  rw [← undollared_of_notMem hdollar] at hquotes
  exact ⟨inner, sanitize_eq_quoted_iff.mpr ⟨hquotes, undollared_of_notMem hdollar⟩⟩

/-- A sanitized name has one of the two forms. -/
theorem isPlain_or_isQuotedForm_sanitize (name : String) :
    IsPlain (sanitize name) ∨ IsQuotedForm (sanitize name) := by
  rw [sanitize_eq_protect]
  rcases isForbiddenKeyword_or_needsQuotes_or_isPlain (undollared name) with hname | hname | hname
  · rw [protect_of_isForbiddenKeyword hname]
    exact Or.inl (isPlain_append_suffix hname)
  · rw [hname.protect_eq]
    exact Or.inr ⟨undollared name, rfl, dollar_notMem_undollared name, hname⟩
  · rw [hname.protect_eq]
    exact Or.inl hname

theorem dollar_notMem_sanitize (name : String) : '$' ∉ (sanitize name).toList := by
  rcases isPlain_or_isQuotedForm_sanitize name with hplain | hquoted
  · exact dollar_notMem_of_isValid hplain.isValid_eq_true
  · exact hquoted.dollar_notMem

/-- Sanitizing changes every name that is not an identifier, or that a table lists. -/
theorem isPlain_of_sanitize_eq (h : sanitize name = name) : IsPlain name := by
  have hform := isPlain_or_isQuotedForm_sanitize name
  rw [h] at hform
  refine hform.resolve_right ?_
  rintro ⟨inner, hinner, hdollar, -⟩
  -- the name would have to be the one that stands between its backticks
  have hself := (sanitize_eq_quoted_iff.mp (h.trans hinner)).2
  rw [undollared_of_notMem (by rwa [hinner, dollar_mem_quoted_iff]), hinner] at hself
  exact quoted_ne_self inner hself

/-- **The forms of sanitized names.** The texts that sanitizing gives are the identifiers that no
table of keywords lists, and the names without dollar signs, in backticks, that are not forbidden
and either hard keywords or no identifiers. The names that it leaves as they are are those of the
first form. So a sanitized name has no dollar sign and exactly one of the two forms. -/
theorem sanitized_forms_exact :
    (∀ text, (∃ name, sanitize name = text) ↔ IsPlain text ∨ IsQuotedForm text) ∧
    (∀ name, sanitize name = name ↔ IsPlain name) ∧
    ∀ name, '$' ∉ (sanitize name).toList ∧
      (IsPlain (sanitize name) ∨ IsQuotedForm (sanitize name)) ∧
      ¬(IsPlain (sanitize name) ∧ IsQuotedForm (sanitize name)) := by
  refine ⟨fun text => ⟨?_, ?_⟩, fun name => ⟨isPlain_of_sanitize_eq, sanitize_of_isPlain⟩, ?_⟩
  · rintro ⟨name, rfl⟩
    exact isPlain_or_isQuotedForm_sanitize name
  · rintro (hplain | hquoted)
    · exact ⟨text, sanitize_of_isPlain hplain⟩
    · exact exists_sanitize_eq_of_isQuotedForm hquoted
  · intro name
    refine ⟨dollar_notMem_sanitize name, isPlain_or_isQuotedForm_sanitize name, ?_⟩
    rintro ⟨hplain, hquoted⟩
    exact hquoted.not_isPlain hplain

end Nomenclator.Identifier
