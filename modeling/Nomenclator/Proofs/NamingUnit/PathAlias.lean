import Nomenclator.Proofs.DottedName.Separators
import Nomenclator.Proofs.Identifier.Collision
import Nomenclator.Proofs.NamingUnit.Reference

/-!
# What the path alias tells apart

The first candidate for an alias runs the whole path together, and different paths may become the
same: `a_.B` and `a._B` both give `a___B`. Which paths do is known in full
(`DottedName.underscored_eq_underscored_iff`), and no two do without an empty segment or one that
begins with an underscore. Paths of several segments without such ones are `Legible`: they have path
aliases of their own (`AliasCandidate.ofPath_injOn`). A path alias of several segments has an
underscore, so it is no keyword, and what is done for keywords makes no two of them alike.

So the path alias of one legible path is as free as it was, when another one has taken its own
(`path_alias_collisions`).
-/

namespace Nomenclator

open DottedName (segments underscored)

variable {name : String}

namespace AliasCandidate

open Identifier (not_keywordCollision_of_underscore protect_eq_protect_iff sanitize
  sanitize_eq_protect undollared undollared_of_notMem)

/-! ### Legible paths -/

/-- A path of several segments that are not empty, without dollar signs, and with no underscore at
the beginning of a later segment. -/
structure Legible (name : String) : Prop where
  two_le_length : 2 ≤ (segments name).length
  segment_ne_empty : ∀ segment ∈ segments name, segment ≠ ""
  dollar_notMem : '$' ∉ name.toList
  begin_ne_underscore : ∀ segment ∈ (segments name).tail, segment.toList.head? ≠ some '_'

/-- A path of several segments has a dot. -/
theorem Legible.dot_mem (h : Legible name) : '.' ∈ name.toList := by
  by_contra hdot
  have hlength := h.two_le_length
  rw [segments, List.splitOn_eq_singleton hdot] at hlength
  exact absurd hlength (by simp)

/-- The path alias of several segments has an underscore where they meet. -/
theorem Legible.underscore_mem (h : Legible name) : '_' ∈ (underscored name).toList := by
  have hdot : '.' ∈ (Text.replaceChar '_' "__" name).toList :=
    (Text.mem_replaceChar_iff (by decide) (by decide)).mpr h.dot_mem
  rw [underscored, Text.toList_replaceChar, List.mem_flatMap]
  exact ⟨'.', hdot, by decide⟩

/-- Running a path together brings no dollar sign in. -/
theorem Legible.undollared_underscored (h : Legible name) :
    undollared (underscored name) = underscored name := by
  refine undollared_of_notMem ?_
  rw [DottedName.mem_underscored_iff (by decide)]
  exact h.dollar_notMem

theorem Legible.dotsLead (h : Legible name) : DottedName.DotsLead name.toList :=
  DottedName.dotsLead_of_segments h.segment_ne_empty h.begin_ne_underscore

/-- **Legible paths have path aliases of their own.** -/
theorem ofPath_injOn : {name | Legible name}.InjOn ofPath := by
  intro first hfirst second hsecond heq
  have hprotected : Identifier.protect (underscored first) =
      Identifier.protect (underscored second) := by
    rw [← hfirst.undollared_underscored, ← hsecond.undollared_underscored, ← sanitize_eq_protect,
      ← sanitize_eq_protect]
    exact heq
  rcases protect_eq_protect_iff.mp hprotected with hsame | hcollision | hcollision
  · exact DottedName.eq_of_underscored_eq hfirst.dotsLead hsecond.dotsLead hsame
  · exact absurd hcollision (not_keywordCollision_of_underscore hfirst.underscore_mem)
  · exact absurd hcollision (not_keywordCollision_of_underscore hsecond.underscore_mem)

end AliasCandidate

namespace NamingUnit

open AliasCandidate (Legible ofPath ofPath_injOn)

variable {unit : NamingUnit} {identifier other owner : String}

/-- Claiming an alias leaves other identifiers as available as they were. -/
theorem isAvailable_tryAlias_of_ne (hne : other ≠ identifier) :
    (unit.tryAlias identifier owner).2.isAvailable other name = unit.isAvailable other name := by
  obtain ⟨hscopes, -, hindex⟩ := claimAlias_frame unit identifier owner
  have himported :
      (unit.claimAlias identifier owner).2.imported? other = unit.imported? other := by
    rw [imported?_claimAlias, imported?_claim, if_neg fun hfree => hne hfree.1]
  rw [tryAlias_eq]
  split
  · rw [isAvailable, isAvailable, himported, isLocal, isLocal, hscopes, isSharedTopLevel,
      isSharedTopLevel, topLevelsWritten, topLevelsWritten, hindex]
  · rfl

/-- **What the path alias tells apart.** Two paths become the same when they are run together
exactly if their characters besides dots and underscores are the same, and the runs of dots and
underscores before, between and after these have the same weights. Legible paths have path aliases
of their own, so claiming the path alias of one leaves that of another one as available as it was. -/
theorem path_alias_collisions :
    (∀ first second, underscored first = underscored second ↔
      DottedName.wordChars first = DottedName.wordChars second ∧
        (DottedName.separatorRuns first).map DottedName.weight =
          (DottedName.separatorRuns second).map DottedName.weight) ∧
    {name | Legible name}.InjOn ofPath ∧
    ∀ (unit : NamingUnit) (first second : String), Legible first → Legible second →
      first ≠ second →
        (unit.tryAlias (ofPath first) first).2.isAvailable (ofPath second) second =
          unit.isAvailable (ofPath second) second := by
  refine ⟨fun first second => DottedName.underscored_eq_underscored_iff, ofPath_injOn, ?_⟩
  intro unit first second hfirst hsecond hne
  refine isAvailable_tryAlias_of_ne fun heq => hne ?_
  exact (ofPath_injOn hsecond hfirst heq).symm

/-- An underscore may end a segment of a legible path but not begin one. -/
theorem path_alias_collisions_layers :
    underscored "a_.B" = underscored "a._B" ∧ Legible "a_.B" ∧ Legible "a.B_" ∧
      ofPath "a_.B" ≠ ofPath "a.B_" := by
  have hlegible : Legible "a_.B" ∧ Legible "a.B_" :=
    ⟨⟨by decide, by decide, by decide, by decide⟩, ⟨by decide, by decide, by decide, by decide⟩⟩
  refine ⟨?_, hlegible.1, hlegible.2, fun heq => ?_⟩
  · exact (path_alias_collisions.1 _ _).mpr ⟨by decide, by decide⟩
  · exact absurd (path_alias_collisions.2.1 hlegible.1 hlegible.2 heq) (by decide)

end NamingUnit

end Nomenclator
