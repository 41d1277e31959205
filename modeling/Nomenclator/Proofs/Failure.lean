import Mathlib.Tactic

/-!
# Computations that can fail

A computation of several steps succeeds when each step does, and otherwise it fails with the error
of the first step that fails. This is stated for two steps (`bind_eq_ok_iff`, `bind_eq_error_iff`),
and for a step that is made for each item of a list (`mapM_eq_ok_iff`, `mapM_eq_error_iff`).
-/

namespace Nomenclator

variable {α β ε : Type} {computation : Except ε α} {next : α → Except ε β} {f : α → Except ε β}
  {items : List α}

theorem bind_eq_ok_iff {result : β} :
    computation >>= next = .ok result ↔
      ∃ value, computation = .ok value ∧ next value = .ok result := by
  cases computation <;> simp [bind, Except.bind]

theorem bind_eq_error_iff {error : ε} :
    computation >>= next = .error error ↔
      computation = .error error ∨
        ∃ value, computation = .ok value ∧ next value = .error error := by
  cases computation <;> simp [bind, Except.bind]

/-- A list is worked through when each of its items is. -/
theorem mapM_eq_ok_iff {values : List β} :
    items.mapM f = .ok values ↔
      List.Forall₂ (fun item value => f item = .ok value) items values := by
  induction items generalizing values with
  | nil => cases values <;> simp [pure, Except.pure]
  | cons first rest ih =>
    simp only [List.mapM_cons, bind_eq_ok_iff, ih, pure, Except.pure, Except.ok.injEq,
      List.forall₂_cons_left_iff]
    constructor
    · rintro ⟨value, hfirst, values, hrest, rfl⟩
      exact ⟨value, values, hfirst, hrest, rfl⟩
    · rintro ⟨value, values, hfirst, hrest, rfl⟩
      exact ⟨value, hfirst, values, hrest, rfl⟩

/-- The first item that fails makes the list fail. -/
theorem mapM_eq_error_iff {error : ε} :
    items.mapM f = .error error ↔ ∃ earlier item later, items = earlier ++ item :: later ∧
      (∀ other ∈ earlier, ∃ value, f other = .ok value) ∧ f item = .error error := by
  induction items with
  | nil => simp [pure, Except.pure]
  | cons first rest ih =>
    have hpure (value : β) : (do let values ← rest.mapM f; pure (value :: values)) = .error error ↔
        rest.mapM f = .error error := by
      simp [bind_eq_error_iff, pure, Except.pure]
    simp only [List.mapM_cons, bind_eq_error_iff, hpure, ih]
    constructor
    · rintro (hfirst | ⟨value, hfirst, earlier, item, later, rfl, hearlier, hitem⟩)
      · exact ⟨[], first, rest, rfl, by simp, hfirst⟩
      · refine ⟨first :: earlier, item, later, rfl, ?_, hitem⟩
        exact List.forall_mem_cons.mpr ⟨⟨value, hfirst⟩, hearlier⟩
    · rintro ⟨earlier, item, later, hsplit, hearlier, hitem⟩
      rcases List.cons_eq_append_iff.mp hsplit with ⟨rfl, hsplit⟩ | ⟨earlier, rfl, rfl⟩
      · obtain ⟨rfl, rfl⟩ := List.cons.inj hsplit
        exact Or.inl hitem
      · obtain ⟨⟨value, hfirst⟩, hearlier⟩ := List.forall_mem_cons.mp hearlier
        exact Or.inr ⟨value, hfirst, earlier, item, later, rfl, hearlier, hitem⟩

end Nomenclator
