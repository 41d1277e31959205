import Nomenclator.Proofs.Identifier.Collision
import Nomenclator.Proofs.NamingUnit.AliasSearch

/-!
# How long the digest search takes

The search for an alias with a digest goes on until a candidate is available. Whatever is not
available is taken: bound by a live scope, written for a declaration of the unit, or claimed
(`mem_taken_of_isAvailable_eq_false`). A unit has finitely many such identifiers, and different
digests give different candidates (`AliasCandidate.ofDigest_injOn`). So among one candidate more than
there are taken identifiers at least one is available, and the search stops at the first such one
(`digest_search_bounded`). Below `AliasCandidate.attemptLimit` taken identifiers it never runs out of
attempts, and every name resolves.

Different digests stay different in writing because a digest has no dollar sign to replace, and
because no keyword has an underscore: a candidate is not one of the names of
`Identifier.KeywordCollision`.
-/

namespace Nomenclator

/-! ### Candidates with different digests -/

namespace AliasCandidate

open Identifier (dollarReplacement not_keywordCollision_of_underscore sanitize)

variable {name : String} {first second attempt : ℕ}

/-- Sanitizing the text of a digest alias leaves its digest as it is. -/
theorem replaceChar_digest (name : String) (attempt : ℕ) :
    Text.replaceChar '$' dollarReplacement
        (DottedName.underscored name ++ "_" ++ shortDigest name attempt) =
      Text.replaceChar '$' dollarReplacement (DottedName.underscored name ++ "_") ++
        shortDigest name attempt := by
  have hdollar : '$' ∉ (shortDigest name attempt).toList :=
    fun hmem => absurd (mem_hexDigits hmem) (by decide)
  rw [Text.replaceChar_append, Text.replaceChar_of_notMem hdollar]

/-- **Candidates with different digests are different identifiers.** -/
theorem ofDigest_eq_ofDigest_iff :
    ofDigest name first = ofDigest name second ↔
      shortDigest name first = shortDigest name second := by
  have hunderscore (attempt : ℕ) : '_' ∈ (Text.replaceChar '$' dollarReplacement
      (DottedName.underscored name ++ "_") ++ shortDigest name attempt).toList := by
    rw [Text.replaceChar_append, String.toList_append, String.toList_append]
    exact List.mem_append_left _ (List.mem_append_right _ (by decide))
  constructor
  · intro heq
    rw [ofDigest, ofDigest, sanitize, sanitize, replaceChar_digest, replaceChar_digest,
      Identifier.protect_eq_protect_iff] at heq
    rcases heq with heq | hcollision | hcollision
    · exact (String.append_right_inj _).mp heq
    · exact absurd hcollision (not_keywordCollision_of_underscore (hunderscore first))
    · exact absurd hcollision (not_keywordCollision_of_underscore (hunderscore second))
  · intro heq
    rw [ofDigest, ofDigest, heq]

theorem ofDigest_injOn {attempts : Set ℕ} (h : attempts.InjOn (shortDigest name)) :
    attempts.InjOn (ofDigest name) :=
  fun _ hfirst _ hsecond heq => h hfirst hsecond (ofDigest_eq_ofDigest_iff.mp heq)

end AliasCandidate

namespace NamingUnit

open AliasCandidate (attemptLimit ofDigest shortDigest)

variable {unit next : NamingUnit} {name identifier : String}

/-! ### Taken identifiers -/

/-- The identifiers that are taken in a unit: bound by a live scope, written for a declaration, or
claimed. -/
def taken (unit : NamingUnit) : Finset String :=
  (unit.scopes.flatMap (·.toList) ++ unit.topLevels.toList.map Identifier.ofSimpleName ++
    unit.imports.keys).toFinset

theorem mem_taken_iff :
    identifier ∈ unit.taken ↔
      unit.isLocal identifier = true ∨
        (∃ declared, unit.isTopLevel declared = true ∧
          Identifier.ofSimpleName declared = identifier) ∨
        ∃ owner, unit.imported? identifier = some owner := by
  have hlocal : identifier ∈ unit.scopes.flatMap (·.toList) ↔ unit.isLocal identifier = true := by
    simp [isLocal, List.mem_flatMap]
  have hdeclared : identifier ∈ unit.topLevels.toList.map Identifier.ofSimpleName ↔
      ∃ declared, unit.isTopLevel declared = true ∧
        Identifier.ofSimpleName declared = identifier := by
    simp [isTopLevel, List.mem_map]
  have himported : identifier ∈ unit.imports.keys ↔
      ∃ owner, unit.imported? identifier = some owner := by
    rw [Std.ExtTreeMap.mem_keys, Std.ExtTreeMap.mem_iff_isSome_getElem?,
      Option.isSome_iff_exists, imported?]
  rw [taken, List.mem_toFinset, List.mem_append, List.mem_append, hlocal, hdeclared, himported,
    or_assoc]

/-- An identifier that is not available is taken. -/
theorem mem_taken_of_isAvailable_eq_false (hunit : IndexExact unit)
    (h : unit.isAvailable identifier name = false) : identifier ∈ unit.taken := by
  rw [mem_taken_iff]
  by_contra hfree
  obtain ⟨hlocal, hdeclared, himported⟩ : unit.isLocal identifier = false ∧ _ ∧ _ := by
    simpa only [not_or, Bool.not_eq_true] using hfree
  refine Bool.eq_false_iff.mp h ((isAvailable_iff_usable hunit).mpr ⟨hlocal, ?_, Or.inl ?_⟩)
  · intro declared htop hwritten
    exact absurd ⟨declared, htop, hwritten⟩ hdeclared
  · exact Option.eq_none_iff_forall_ne_some.mpr fun owner howner => himported ⟨owner, howner⟩

/-! ### The bound -/

/-- Among one candidate more than there are taken identifiers, one is available. -/
theorem exists_isAvailable_of_injOn (hunit : IndexExact unit) (name : String)
    {candidates : ℕ → String} (hdistinct : (Set.Iic unit.taken.card).InjOn candidates) :
    ∃ k ≤ unit.taken.card, unit.isAvailable (candidates k) name = true := by
  by_contra hnone
  have htaken : ∀ k ∈ Finset.range (unit.taken.card + 1), candidates k ∈ unit.taken := by
    intro k hk
    have hle : k ≤ unit.taken.card := Nat.lt_succ_iff.mp (Finset.mem_range.mp hk)
    have hrefused : unit.isAvailable (candidates k) name = false :=
      Bool.eq_false_iff.mpr fun havailable => hnone ⟨k, hle, havailable⟩
    exact mem_taken_of_isAvailable_eq_false hunit hrefused
  have hinj : Set.InjOn candidates (Finset.range (unit.taken.card + 1)) := by
    refine hdistinct.mono fun k hk => ?_
    exact Nat.lt_succ_iff.mp (Finset.mem_range.mp (Finset.mem_coe.mp hk))
  have hcard := Finset.card_le_card_of_injOn candidates htaken hinj
  rw [Finset.card_range] at hcard
  omega

/-- The least available candidate is the first available one. -/
theorem exists_first_available {candidates : ℕ → String} {bound : ℕ}
    (h : ∃ k ≤ bound, unit.isAvailable (candidates k) name = true) :
    ∃ k ≤ bound, unit.isAvailable (candidates k) name = true ∧
      ∀ j < k, unit.isAvailable (candidates j) name = false := by
  obtain ⟨k, hk, havailable⟩ := h
  have hexists : ∃ k, unit.isAvailable (candidates k) name = true := ⟨k, havailable⟩
  refine ⟨Nat.find hexists, (Nat.find_min' hexists havailable).trans hk, Nat.find_spec hexists, ?_⟩
  intro j hj
  exact Bool.eq_false_iff.mpr (Nat.find_min hexists hj)

/-- The search stops at the first available candidate, however many attempts it has beyond that. -/
theorem digestAlias_eq_ite {k : ℕ} (havailable : unit.isAvailable (ofDigest name k) name = true)
    (hrefused : ∀ j < k, unit.isAvailable (ofDigest name j) name = false) (attempts : ℕ) :
    unit.digestAlias name attempts 0 =
      if k < attempts then some (ofDigest name k, (unit.claimAlias (ofDigest name k) name).2)
      else none := by
  split
  · rename_i hlt
    exact digestAlias_zero_eq_some_iff.mpr ⟨⟨k, hlt, rfl, havailable, hrefused⟩, rfl⟩
  · rename_i hle
    rw [Option.eq_none_iff_forall_ne_some]
    rintro ⟨identifier, next⟩ hfound
    obtain ⟨⟨j, hj, rfl, hgranted, -⟩, -⟩ := digestAlias_zero_eq_some_iff.mp hfound
    rw [hrefused j (by omega)] at hgranted
    cases hgranted

/-- A name resolves when the digest search finds an alias for it. -/
theorem resolve_isSome_of_digestAlias (h : (unit.digestAlias name attemptLimit 0).isSome = true) :
    (unit.resolve name).isSome = true := by
  have hnew : (unit.newAlias name).isSome = true := by
    rw [newAlias, tryAlias_eq]
    by_cases havailable : unit.isAvailable (AliasCandidate.ofPath name) name = true
    · rw [if_pos havailable]
      rfl
    · rw [if_neg havailable]
      exact h
  have halias : (unit.aliasName name).isSome = true := by
    rw [aliasName]
    split
    · split
      · rfl
      · exact hnew
    · exact hnew
  rcases hbare : (unit.bareName name).1 with _ | identifier
  · rw [resolve_of_bareName_none hbare]
    exact halias
  · rcases hresult : unit.bareName name with ⟨granted, next⟩
    obtain rfl : granted = some identifier := by rw [← hbare, hresult]
    rw [resolve, hresult]
    rfl

/-- **The digest search takes at most one attempt more than there are taken identifiers.** In any
state of a unit, let the digests of a name at the attempts up to the number of taken identifiers be
different from each other. Then the search stops at one of these attempts: it grants the candidate
there, and with fewer attempts it would grant none. So it keeps below the limit, and the name
resolves. -/
theorem digest_search_bounded {label : String} {calls : List Call} {answers : List Answer}
    (hrun : (ofLabel label).runCalls calls = some (answers, unit))
    (hcard : unit.taken.card < attemptLimit)
    (hdistinct : (Set.Iic unit.taken.card).InjOn (shortDigest name)) :
    (∃ k ≤ unit.taken.card, ∃ next,
      unit.digestAlias name attemptLimit 0 = some (ofDigest name k, next) ∧
        GainsAlias (ofDigest name k) name unit next ∧
        ∀ attempts, unit.digestAlias name attempts 0 =
          if k < attempts then some (ofDigest name k, next) else none) ∧
      (unit.resolve name).isSome = true := by
  have hunit := indexExact_of_runCalls hrun
  obtain ⟨k, hk, havailable, hrefused⟩ := exists_first_available
    (exists_isAvailable_of_injOn hunit name (AliasCandidate.ofDigest_injOn hdistinct))
  have hsearch := digestAlias_eq_ite havailable hrefused
  have hfound := hsearch attemptLimit
  rw [if_pos (by omega)] at hfound
  refine ⟨⟨k, hk, _, hfound, gainsAlias_claimAlias havailable, hsearch⟩, ?_⟩
  exact resolve_isSome_of_digestAlias (by rw [hfound, Option.isSome_some])

/-- With four identifiers taken, two of them by local names in the way of the aliases, the search
stops at its second attempt. -/
theorem digest_search_bounded_sockets :
    let calls := [Step.declareTopLevel "app.Main", .resolve "java.Socket", .enterScope,
      .bindLocal "net_Socket", .bindLocal "net_Socket_5101f89b"].map (Call.mk .default)
    ∃ answers unit next, (ofLabel "net/Sockets.kt").runCalls calls = some (answers, unit) ∧
      unit.taken.card = 4 ∧
      unit.digestAlias "net.Socket" attemptLimit 0 = some (ofDigest "net.Socket" 1, next) ∧
      GainsAlias (ofDigest "net.Socket" 1) "net.Socket" unit next ∧
      unit.digestAlias "net.Socket" 1 0 = none := by
  intro calls
  have hcompletes : ((ofLabel "net/Sockets.kt").runCalls calls).map (fun result =>
      decide (result.2.taken.card = 4 ∧ (result.2.digestAlias "net.Socket" 1 0).isNone = true ∧
        (result.2.digestAlias "net.Socket" 2 0).isSome = true)) = some true := by
    decide +kernel
  obtain ⟨⟨answers, unit⟩, hrun, hcompletes⟩ := Option.map_eq_some_iff.mp hcompletes
  obtain ⟨hcard, hfirst, hsecond⟩ := of_decide_eq_true hcompletes
  have hdigests : ∀ j < 5, ∀ k < 5,
      shortDigest "net.Socket" j = shortDigest "net.Socket" k → j = k := by decide +kernel
  have hdistinct : (Set.Iic unit.taken.card).InjOn (shortDigest "net.Socket") := by
    intro j hj k hk
    rw [Set.mem_Iic, hcard] at hj hk
    exact hdigests j (by omega) k (by omega)
  obtain ⟨⟨k, -, next, hfound, hgains, hsearch⟩, -⟩ :=
    digest_search_bounded hrun (by rw [hcard]; decide) hdistinct
  -- one attempt is too few, and two are enough
  obtain rfl : k = 1 := by
    have hlower := hsearch 1
    have hupper := hsearch 2
    rw [Option.isNone_iff_eq_none.mp hfirst] at hlower
    split at hlower
    · cases hlower
    split at hupper
    · omega
    · rw [hupper] at hsecond
      cases hsecond
  exact ⟨answers, unit, next, hrun, hcard, hfound, hgains, Option.isNone_iff_eq_none.mp hfirst⟩

end NamingUnit

end Nomenclator
