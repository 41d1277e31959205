import Nomenclator.Proofs.NamingUnit.Independence
import Nomenclator.Proofs.NamingUnit.Stability

/-!
# The alias search grants the first usable candidate

A name that is refused its bare identifier is given an alias. The alias that it remembers is tried
first, then the one that runs its path together, and then those with a digest, attempt by attempt
(`aliasesInOrder`). The search grants the first of them that is usable and leaves nothing behind for
those before it (`first_usable_alias_granted`).

Two guards are in the way of a candidate. It has to be available, and the claim on it has to be
granted. The second one never refuses what the first one lets through, so the search is one `find?`
along the list (`aliasName_eq`). A remembered alias is returned without a claim, but it is
claimed for its name already, so this makes no exception.

`Usable` says what an available candidate is in terms of the declarations themselves, where the
search looks into their index.
-/

namespace Nomenclator.NamingUnit

variable {start unit next : NamingUnit} {name identifier : String}

/-! ### Usable candidates -/

/-- An identifier can be written as an alias of a name here: no live scope binds it, no other
declaration is written with it, and it is free or claimed for the name. -/
structure Usable (unit : NamingUnit) (identifier name : String) : Prop where
  isLocal_eq_false : unit.isLocal identifier = false
  sole : ∀ declared, unit.isTopLevel declared = true →
    Identifier.ofSimpleName declared = identifier → declared = name
  free_or_own : unit.imported? identifier = none ∨ unit.imported? identifier = some name

/-- The search lets the usable identifiers through. -/
theorem isAvailable_iff_usable (hunit : IndexExact unit) :
    unit.isAvailable identifier name = true ↔ Usable unit identifier name := by
  have hsole : unit.isSharedTopLevel identifier name = false ↔ ∀ declared,
      unit.isTopLevel declared = true → Identifier.ofSimpleName declared = identifier →
        declared = name := by
    rw [Bool.eq_false_iff, ne_eq, hunit.isSharedTopLevel_iff]
    constructor
    · intro hnone declared hdeclared hwritten
      by_contra hne
      exact hnone ⟨declared, hdeclared, hne, hwritten⟩
    · rintro hall ⟨declared, hdeclared, hne, hwritten⟩
      exact hne (hall declared hdeclared hwritten)
  rw [isAvailable_iff, hsole]
  constructor
  · rintro ⟨hlocal, hsole, hfree⟩
    exact ⟨hlocal, hsole, hfree⟩
  · rintro ⟨hlocal, hsole, hfree⟩
    exact ⟨hlocal, hsole, hfree⟩

/-! ### The candidates in order -/

/-- The candidates for a new alias of a name, in the order in which they are tried. -/
def newAliases (name : String) : List String :=
  (List.range (AliasCandidate.attemptLimit + 1)).map (aliasCandidate name)

/-- All candidates for an alias of a name, in the order in which they are tried: the one that is
remembered, the one that runs the path together, and those with a digest. -/
def aliasesInOrder (unit : NamingUnit) (name : String) : List String :=
  (unit.alias? name).toList ++ newAliases name

/-- The first available new alias is the one that is found first. -/
theorem find?_newAliases_eq_some_iff :
    (newAliases name).find? (unit.isAvailable · name) = some identifier ↔
      unit.IsFirstAvailable name (aliasCandidate name) (AliasCandidate.attemptLimit + 1)
        identifier := by
  rw [newAliases, List.find?_map, Option.map_eq_some_iff]
  constructor
  · rintro ⟨k, hfound, rfl⟩
    obtain ⟨havailable, hk, hrefused⟩ := List.find?_range_eq_some.mp hfound
    refine ⟨k, List.mem_range.mp hk, rfl, havailable, fun j hj => ?_⟩
    simpa using hrefused j hj
  · rintro ⟨k, hk, rfl, havailable, hrefused⟩
    refine ⟨k, List.find?_range_eq_some.mpr ⟨havailable, List.mem_range.mpr hk, ?_⟩, rfl⟩
    intro j hj
    simpa using hrefused j hj

/-- A new alias is the first available one, claimed and remembered. -/
theorem newAlias_eq (unit : NamingUnit) (name : String) :
    unit.newAlias name = ((newAliases name).find? (unit.isAvailable · name)).map
      fun identifier => (identifier, (unit.claimAlias identifier name).2) := by
  refine Option.ext fun ⟨identifier, next⟩ => ?_
  rw [newAlias_eq_some_iff, ← find?_newAliases_eq_some_iff, Option.map_eq_some_iff]
  constructor
  · rintro ⟨hfound, rfl⟩
    exact ⟨identifier, hfound, rfl⟩
  · rintro ⟨found, hfound, heq⟩
    obtain ⟨rfl, rfl⟩ := Prod.mk.inj heq
    exact ⟨hfound, rfl⟩

/-- **An alias is the first available candidate**, claimed and remembered. -/
theorem aliasName_eq (hunit : AliasesClaimed unit) (name : String) :
    unit.aliasName name = ((unit.aliasesInOrder name).find? (unit.isAvailable · name)).map
      fun identifier => (identifier, (unit.claimAlias identifier name).2) := by
  rw [aliasName, aliasesInOrder, List.find?_append]
  cases halias : unit.alias? name with
  | none =>
    rw [Option.toList_none, List.find?_nil, Option.none_or]
    exact newAlias_eq unit name
  | some remembered =>
    rw [Option.toList_some, List.find?_singleton]
    by_cases havailable : unit.isAvailable remembered name = true
    · -- the claim on a remembered alias is made already
      have hclaimed : (unit.claimAlias remembered name).2 = unit :=
        claimAlias_of_imported (hunit _ _ halias) halias
      rw [if_pos havailable, Option.some_or, Option.map_some, hclaimed]
      exact if_pos havailable
    · rw [if_neg havailable, Option.none_or, ← newAlias_eq]
      exact if_neg havailable

/-! ### What an alias leaves behind -/

/-- A unit has gained an alias of a name: the identifier is claimed for it, the name remembers an
alias, and nothing else has changed. -/
structure GainsAlias (identifier name : String) (unit next : NamingUnit) : Prop where
  imported : next.imported? identifier = some name
  /-- The alias that was remembered is kept. -/
  remembered : next.alias? name = some ((unit.alias? name).getD identifier)
  imported_of_ne : ∀ x ≠ identifier, next.imported? x = unit.imported? x
  remembered_of_ne : ∀ n ≠ name, next.alias? n = unit.alias? n
  frame : next = { unit with imports := next.imports, aliases := next.aliases }

/-- **Claiming an available alias changes two entries and nothing else.** -/
theorem gainsAlias_claimAlias (h : unit.isAvailable identifier name = true) :
    GainsAlias identifier name unit (unit.claimAlias identifier name).2 where
  imported := (claimAlias_of_isAvailable h).1
  remembered := (claimAlias_of_isAvailable h).2
  imported_of_ne x hx := by
    rw [imported?_claimAlias, imported?_claim, if_neg fun hfree => hx hfree.1]
  remembered_of_ne n hn := by
    rw [claimAlias_snd, if_pos (claim_fst_of_isAvailable h), alias?_rememberAlias,
      if_neg fun hfirst => hn hfirst.1, alias?_claim]
  frame := by
    rw [claimAlias_snd, if_pos (claim_fst_of_isAvailable h), claim_snd_eq]
    rfl

/-! ### The search -/

/-- A name that is refused its bare identifier is given an alias. -/
theorem resolve_of_bareName_none (h : (unit.bareName name).1 = none) :
    unit.resolve name = unit.aliasName name := by
  rcases hbare : unit.bareName name with ⟨granted, refused⟩
  rw [hbare] at h
  obtain rfl : granted = none := h
  rw [resolve, hbare, (eq_of_bareName_none hbare).1]

/-- **The alias search grants the first usable candidate.** Let a unit whose names are declared be
written up to some moment, and let a name be refused its bare identifier there. When one of the
candidates is usable, the name resolves to the first such one. Then the identifier is claimed for
the name, the name remembers the alias that it had, or this one if it had none, and everything else
is as before. -/
theorem first_usable_alias_granted (hstart : Prepared start) {calls : List Call}
    (hcalls : ∀ call ∈ calls, call.step.isWriting = true) {answers : List Answer}
    (hrun : start.runCalls calls = some (answers, unit)) (hbare : (unit.bareName name).1 = none)
    (husable : ∃ candidate ∈ unit.aliasesInOrder name, Usable unit candidate name) :
    ∃ earlier identifier later next,
      unit.aliasesInOrder name = earlier ++ identifier :: later ∧
      Usable unit identifier name ∧ (∀ candidate ∈ earlier, ¬Usable unit candidate name) ∧
      unit.resolve name = some (identifier, next) ∧ GainsAlias identifier name unit next := by
  have hunit := consistent_of_runCalls hstart hcalls hrun
  have hindex := hstart.indexExact_of_runCalls hrun
  obtain ⟨identifier, hfound⟩ : ∃ identifier,
      (unit.aliasesInOrder name).find? (unit.isAvailable · name) = some identifier := by
    rw [← Option.isSome_iff_exists, List.find?_isSome]
    obtain ⟨candidate, hmem, hcandidate⟩ := husable
    exact ⟨candidate, hmem, (isAvailable_iff_usable hindex).mpr hcandidate⟩
  obtain ⟨havailable, earlier, later, hsplit, hrefused⟩ :=
    List.find?_eq_some_iff_append.mp hfound
  refine ⟨earlier, identifier, later, (unit.claimAlias identifier name).2, hsplit,
    (isAvailable_iff_usable hindex).mp havailable, ?_, ?_, gainsAlias_claimAlias havailable⟩
  · intro candidate hmem
    rw [← isAvailable_iff_usable hindex]
    simpa using hrefused candidate hmem
  · rw [resolve_of_bareName_none hbare, aliasName_eq hunit.aliasesClaimed, hfound,
      Option.map_some]

/-- A name whose alias is bound by a live scope gets its first alias with a digest there, and goes on
remembering the first one. -/
theorem first_usable_alias_granted_sockets :
    let start := (ofLabel "net/Sockets.kt").declareTopLevels ["app.Main"]
    let calls := [Step.resolve "java.Socket", .resolve "net.Socket", .enterScope,
      .bindLocal "net_Socket"].map (Call.mk .default)
    ∃ answers unit next, start.runCalls calls = some (answers, unit) ∧
      unit.alias? "net.Socket" = some "net_Socket" ∧
      ¬Usable unit "net_Socket" "net.Socket" ∧
      unit.resolve "net.Socket" = some ("net_Socket_5101f89b", next) ∧
      GainsAlias "net_Socket_5101f89b" "net.Socket" unit next := by
  intro start calls
  have hcompletes : (start.runCalls calls).map (fun result =>
      decide (result.2.alias? "net.Socket" = some "net_Socket" ∧
        result.2.isLocal "net_Socket" = true ∧ (result.2.bareName "net.Socket").1 = none ∧
        result.2.isAvailable (AliasCandidate.ofDigest "net.Socket" 0) "net.Socket" = true ∧
        (result.2.resolve "net.Socket").map Prod.fst = some "net_Socket_5101f89b")) =
      some true := by
    decide +kernel
  obtain ⟨⟨answers, unit⟩, hrun, hcompletes⟩ := Option.map_eq_some_iff.mp hcompletes
  obtain ⟨halias, hlocal, hbare, havailable, hresolves⟩ := of_decide_eq_true hcompletes
  have hstart : Prepared start := (Prepared.ofLabel _).declareTopLevels _
  have hindex := hstart.indexExact_of_runCalls hrun
  have hmem : AliasCandidate.ofDigest "net.Socket" 0 ∈ unit.aliasesInOrder "net.Socket" :=
    List.mem_append_right _ (List.mem_map.mpr ⟨1, List.mem_range.mpr (by decide), rfl⟩)
  obtain ⟨earlier, identifier, later, next, -, -, -, hresolve, hgains⟩ :=
    first_usable_alias_granted hstart (by decide) hrun hbare
      ⟨_, hmem, (isAvailable_iff_usable hindex).mp havailable⟩
  obtain rfl : identifier = "net_Socket_5101f89b" := by
    rw [hresolve] at hresolves
    exact Option.some.inj hresolves
  refine ⟨answers, unit, next, hrun, halias, fun husable => ?_, hresolve, hgains⟩
  rw [husable.isLocal_eq_false] at hlocal
  cases hlocal

end Nomenclator.NamingUnit
