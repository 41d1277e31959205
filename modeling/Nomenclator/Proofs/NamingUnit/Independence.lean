import Nomenclator.Proofs.Identifier.Letter
import Nomenclator.Proofs.NamingUnit.Consistency

/-!
# Independent references commute

The answer to a reference depends on every earlier one, but only through the identifiers that both
names could be given. When no candidate of one name is a candidate of the other (`Independent`), the
two can be resolved in either order: each gets the same identifier, and the unit ends up the same
(`independent_references_commute`).

A resolution is taken apart for this into what it reads and what it writes. It reads the claims on
the candidates of its name and the alias of its name, besides the scopes and the declarations. So
units that agree on these (`LooksSame`) give the same answer, and the same `Entry` is made in both
(`exists_resolve_eq`). An entry is a claim on a candidate and perhaps an alias of the name. It changes
nothing that an independent name reads (`Entry.looksSame_write`), and entries of two such names are
made under different keys (`Entry.write_comm`).

One of the things that are read could be under a foreign key: the alias that is remembered. In a
unit that is written from its declarations on it is always a candidate of its name
(`AliasesAreCandidates`).

Names need not be spelled out to their last digest to be told apart. A letter of the last segment of
one that the other does not have is enough (`independent_of_letter`).
-/

namespace Nomenclator.NamingUnit

open Unicode (isAlphabetic)

variable {start unit next later : NamingUnit} {name identifier first second : String}

/-! ### Candidates -/

/-- An identifier that a reference to a name may hand out: the bare identifier of the name, or a
candidate for an alias. -/
def IsCandidate (name identifier : String) : Prop :=
  Identifier.ofSimpleName name = identifier ∨ IsAliasCandidate name identifier

/-- Two names have no candidate in common. -/
def Independent (first second : String) : Prop :=
  ∀ identifier, IsCandidate first identifier → ¬IsCandidate second identifier

theorem Independent.symm (h : Independent first second) : Independent second first :=
  fun identifier hsecond hfirst => h identifier hfirst hsecond

theorem Independent.ne (h : Independent first second) : first ≠ second := by
  rintro rfl
  exact h _ (Or.inl rfl) (Or.inl rfl)

/-! ### Names that a letter tells apart -/

/-- Every candidate has the letters of the name's last segment. -/
theorem mem_of_isCandidate {c : Char} (hc : isAlphabetic c = true)
    (h : IsCandidate name identifier) (hsimple : c ∈ (DottedName.simpleName name).toList) :
    c ∈ identifier.toList := by
  have hname := DottedName.mem_of_mem_simpleName hsimple
  rcases h with rfl | ⟨k, -, rfl⟩
  · exact (Identifier.mem_ofSimpleName_iff hc).mpr hsimple
  · cases k with
    | zero => exact (AliasCandidate.mem_ofPath_iff hc).mpr hname
    | succ attempt => exact (AliasCandidate.mem_ofDigest_iff hc).mpr (Or.inl hname)

/-- The letters of a candidate are letters of the name or of a digest. -/
theorem mem_or_mem_hexDigits_of_isCandidate {c : Char} (hc : isAlphabetic c = true)
    (h : IsCandidate name identifier) (hmem : c ∈ identifier.toList) :
    c ∈ name.toList ∨ c ∈ AliasCandidate.hexDigits := by
  rcases h with rfl | ⟨k, -, rfl⟩
  · have hsimple := (Identifier.mem_ofSimpleName_iff hc).mp hmem
    exact Or.inl (DottedName.mem_of_mem_simpleName hsimple)
  · cases k with
    | zero => exact Or.inl ((AliasCandidate.mem_ofPath_iff hc).mp hmem)
    | succ attempt =>
      have hparts := (AliasCandidate.mem_ofDigest_iff hc).mp hmem
      exact hparts.imp_right AliasCandidate.mem_hexDigits

/-- Names are independent when the last segment of one has a letter that occurs nowhere in the other
and that no digest is written with. -/
theorem independent_of_letter {c : Char} (hc : isAlphabetic c = true)
    (hdigit : c ∉ AliasCandidate.hexDigits)
    (hfirst : c ∈ (DottedName.simpleName first).toList) (hsecond : c ∉ second.toList) :
    Independent first second := by
  intro identifier hcandidate hcandidate'
  have hmem := mem_of_isCandidate hc hcandidate hfirst
  rcases mem_or_mem_hexDigits_of_isCandidate hc hcandidate' hmem with hname | hhex
  · exact hsecond hname
  · exact hdigit hhex

/-! ### Remembered aliases -/

/-- Every remembered alias is a candidate of its name. -/
def AliasesAreCandidates (unit : NamingUnit) : Prop :=
  ∀ name identifier, unit.alias? name = some identifier → IsCandidate name identifier

/-- An alias is granted to a candidate only, however the reference is answered. -/
theorem Answers.aliasesAreCandidates {grant : Grant} (h : Answers unit name grant next)
    (hunit : AliasesAreCandidates unit) : AliasesAreCandidates next := by
  have hclaim (identifier : String) : AliasesAreCandidates (unit.claim identifier name).2 := by
    intro n x halias
    rw [alias?_claim] at halias
    exact hunit n x halias
  cases h with
  | own | remembered | path => exact hunit
  | bare => exact hclaim _
  | @claimed identifier havailable _ hcandidate =>
    rw [claimAlias_snd, if_pos (claim_fst_of_isAvailable havailable)]
    intro n x halias
    rw [alias?_rememberAlias] at halias
    split at halias
    · rename_i hfirst
      obtain ⟨rfl, -⟩ := hfirst
      obtain rfl := Option.some.inj halias
      exact Or.inr hcandidate
    · exact hclaim identifier n x halias

/-- In a unit that is written from its declarations on, every remembered alias is a candidate. -/
theorem aliasesAreCandidates_of_runCalls (hstart : Prepared start) {calls : List Call}
    (hcalls : ∀ call ∈ calls, call.step.isWriting = true) {answers : List Answer}
    (hrun : start.runCalls calls = some (answers, unit)) : AliasesAreCandidates unit := by
  refine runCalls_preserves_of_isWriting (fun _ _ h => h) ?_ hcalls hrun ?_
  · intro _ _ _ _ hanswers hunit
    exact hanswers.aliasesAreCandidates hunit
  · intro name identifier halias
    rw [hstart.unclaimed.2] at halias
    cases halias

/-! ### What a reference writes -/

/-- What a reference to a name may leave behind. -/
inductive Entry where
  | nothing
  /-- A claim on the bare identifier. -/
  | bare
  /-- A claim on a candidate for an alias, which is remembered. -/
  | aliased (k : Fin (AliasCandidate.attemptLimit + 1))

namespace Entry

variable {entry : Entry}

/-- The identifier that is claimed, if any. -/
def identifier? (name : String) : Entry → Option String
  | nothing => none
  | bare => some (Identifier.ofSimpleName name)
  | aliased k => some (aliasCandidate name k)

/-- The alias that is remembered, if any. -/
def alias? (name : String) : Entry → Option String
  | nothing | bare => none
  | aliased k => some (aliasCandidate name k)

/-- Makes an entry for a name. What is there already is kept. -/
def write (entry : Entry) (name : String) (unit : NamingUnit) : NamingUnit :=
  { unit with
    imports := (entry.identifier? name).elim unit.imports fun identifier =>
      unit.imports.insertIfNew identifier name
    aliases := (entry.alias? name).elim unit.aliases fun identifier =>
      unit.aliases.insertIfNew name identifier }

/-- Only candidates are claimed. -/
theorem isCandidate_of_identifier? (h : entry.identifier? name = some identifier) :
    IsCandidate name identifier := by
  cases entry with
  | nothing => cases h
  | bare => exact Or.inl (Option.some.inj h)
  | aliased k => exact Or.inr ⟨k, k.isLt, Option.some.inj h⟩

end Entry

/-- A claim enters the identifier, unless it is there already. -/
theorem claim_snd_eq (unit : NamingUnit) (identifier name : String) :
    (unit.claim identifier name).2 =
      { unit with imports := unit.imports.insertIfNew identifier name } := by
  have himports : (unit.claim identifier name).2.imports =
      unit.imports.insertIfNew identifier name := by
    refine Std.ExtTreeMap.ext_getElem? fun x => ?_
    have hclaim : (unit.claim identifier name).2.imports[x]? = _ :=
      imported?_claim unit identifier name x
    rw [hclaim, Std.ExtTreeMap.getElem?_insertIfNew]
    refine if_congr ?_ rfl rfl
    rw [imported?, Std.LawfulEqCmp.compare_eq_iff_eq, getElem?_eq_none_iff, eq_comm]
  have hrest : (unit.claim identifier name).2 =
      { unit with imports := (unit.claim identifier name).2.imports } := by
    unfold claim
    split <;> rfl
  rw [hrest, himports]

namespace Entry

@[simp]
theorem write_nothing (name : String) (unit : NamingUnit) : nothing.write name unit = unit := rfl

@[simp]
theorem write_bare (name : String) (unit : NamingUnit) :
    bare.write name unit = (unit.claim (Identifier.ofSimpleName name) name).2 :=
  (claim_snd_eq unit (Identifier.ofSimpleName name) name).symm

end Entry

/-! ### What a reference reads -/

/-- Two units agree on all that a reference to a name depends on. -/
structure LooksSame (name : String) (unit later : NamingUnit) : Prop where
  isLocal_eq : ∀ identifier, later.isLocal identifier = unit.isLocal identifier
  isTopLevel_eq : later.isTopLevel name = unit.isTopLevel name
  isSharedTopLevel_eq : ∀ identifier,
    later.isSharedTopLevel identifier name = unit.isSharedTopLevel identifier name
  imported?_eq : ∀ identifier, IsCandidate name identifier →
    later.imported? identifier = unit.imported? identifier
  alias?_eq : later.alias? name = unit.alias? name

theorem LooksSame.refl (name : String) (unit : NamingUnit) : LooksSame name unit unit :=
  ⟨fun _ => rfl, rfl, fun _ => rfl, fun _ _ => rfl, rfl⟩

theorem LooksSame.symm (h : LooksSame name unit later) : LooksSame name later unit :=
  ⟨fun x => (h.isLocal_eq x).symm, h.isTopLevel_eq.symm, fun x => (h.isSharedTopLevel_eq x).symm,
    fun x hx => (h.imported?_eq x hx).symm, h.alias?_eq.symm⟩

/-- The same candidates are available. -/
theorem LooksSame.isAvailable_eq (h : LooksSame name unit later)
    (hcandidate : IsCandidate name identifier) :
    later.isAvailable identifier name = unit.isAvailable identifier name := by
  rw [isAvailable, isAvailable, h.isLocal_eq, h.isSharedTopLevel_eq, h.imported?_eq _ hcandidate]

/-- **A bare identifier is decided by what is read.** -/
theorem exists_bareName_eq (unit : NamingUnit) (name : String) :
    ∃ (granted : Option String) (entry : Entry), ∀ later, LooksSame name unit later →
      later.bareName name = (granted, entry.write name later) := by
  have hreads (later : NamingUnit) (h : LooksSame name unit later) :=
    And.intro (h.isLocal_eq (Identifier.ofSimpleName name)) <| And.intro h.isTopLevel_eq <|
      And.intro (h.isSharedTopLevel_eq (Identifier.ofSimpleName name))
        (h.imported?_eq _ (Or.inl rfl))
  cases hlocal : unit.isLocal (Identifier.ofSimpleName name) with
  | true =>
    refine ⟨none, .nothing, fun later h => ?_⟩
    simp [bareName, hreads later h, hlocal]
  | false =>
    by_cases hown : unit.isTopLevel name = true ∧
        unit.isSharedTopLevel (Identifier.ofSimpleName name) name = false
    · -- a declaration that needs no claim
      refine ⟨some (Identifier.ofSimpleName name), .nothing, fun later h => ?_⟩
      simp [bareName, hreads later h, hlocal, hown]
    have hshared_of_declared (hdeclared : unit.isTopLevel name = true) :
        unit.isSharedTopLevel (Identifier.ofSimpleName name) name = true := by
      simpa [hdeclared] using hown
    cases himported : unit.imported? (Identifier.ofSimpleName name) with
    | some owner =>
      -- the claim that is there decides, for declarations and for foreign names
      refine ⟨if owner = name then some (Identifier.ofSimpleName name) else none, .nothing,
        fun later h => ?_⟩
      cases hdeclared : unit.isTopLevel name with
      | true =>
        have hshared := hshared_of_declared hdeclared
        simp [bareName, hreads later h, hlocal, hdeclared, hshared, claim, himported]
      | false => simp [bareName, hreads later h, hlocal, hdeclared, himported]
    | none =>
      cases hdeclared : unit.isTopLevel name with
      | true =>
        have hshared := hshared_of_declared hdeclared
        refine ⟨some (Identifier.ofSimpleName name), .bare, fun later h => ?_⟩
        simp [bareName, hreads later h, hlocal, hdeclared, hshared, himported, claim]
      | false =>
        -- a foreign name is refused the identifier of a declaration
        cases hshared : unit.isSharedTopLevel (Identifier.ofSimpleName name) name with
        | true =>
          refine ⟨none, .nothing, fun later h => ?_⟩
          simp [bareName, hreads later h, hlocal, hdeclared, hshared, himported]
        | false =>
          refine ⟨some (Identifier.ofSimpleName name), .bare, fun later h => ?_⟩
          simp [bareName, hreads later h, hlocal, hdeclared, hshared, himported]

/-- The first available candidate is the same. -/
theorem LooksSame.isFirstAvailable (h : LooksSame name unit later)
    (hfirst : unit.IsFirstAvailable name (aliasCandidate name) (AliasCandidate.attemptLimit + 1)
      identifier) :
    later.IsFirstAvailable name (aliasCandidate name) (AliasCandidate.attemptLimit + 1)
      identifier := by
  obtain ⟨k, hk, rfl, havailable, hrefused⟩ := hfirst
  have hsame {j : ℕ} (hj : j < AliasCandidate.attemptLimit + 1) :
      later.isAvailable (aliasCandidate name j) name =
        unit.isAvailable (aliasCandidate name j) name :=
    h.isAvailable_eq (Or.inr ⟨j, hj, rfl⟩)
  refine ⟨k, hk, rfl, ?_, fun j hj => ?_⟩
  · rw [hsame hk]
    exact havailable
  · rw [hsame (hj.trans hk)]
    exact hrefused j hj

/-- Claiming an available candidate as an alias makes the entry for it. -/
theorem claimAlias_snd_eq (k : Fin (AliasCandidate.attemptLimit + 1))
    (h : unit.isAvailable (aliasCandidate name k) name = true) :
    (unit.claimAlias (aliasCandidate name k) name).2 = (Entry.aliased k).write name unit := by
  rw [claimAlias_snd, if_pos (claim_fst_of_isAvailable h), claim_snd_eq]
  rfl

/-- **A new alias is decided by what is read.** -/
theorem exists_newAlias_eq (unit : NamingUnit) (name : String) :
    ∃ decision : Option (String × Entry), ∀ later, LooksSame name unit later →
      later.newAlias name = decision.map fun (identifier, entry) =>
        (identifier, entry.write name later) := by
  cases hnew : unit.newAlias name with
  | none =>
    refine ⟨none, fun later h => ?_⟩
    rw [Option.map_none, Option.eq_none_iff_forall_ne_some]
    rintro ⟨identifier, next⟩ hlater
    have hfirst := h.symm.isFirstAvailable (newAlias_eq_some_iff.mp hlater).1
    rw [newAlias_eq_some_iff.mpr ⟨hfirst, rfl⟩] at hnew
    cases hnew
  | some granted =>
    have hfirst := (newAlias_eq_some_iff.mp hnew).1
    obtain ⟨k, hk, hcandidate, -⟩ := id hfirst
    refine ⟨some (granted.1, .aliased ⟨k, hk⟩), fun later h => ?_⟩
    have hlater := h.isFirstAvailable hfirst
    refine newAlias_eq_some_iff.mpr ⟨hlater, ?_⟩
    have havailable := hlater.isAvailable
    rw [← hcandidate] at havailable ⊢
    exact (claimAlias_snd_eq ⟨k, hk⟩ havailable).symm

/-- **An alias is decided by what is read.** -/
theorem exists_aliasName_eq (hunit : AliasesAreCandidates unit) (name : String) :
    ∃ decision : Option (String × Entry), ∀ later, LooksSame name unit later →
      later.aliasName name = decision.map fun (identifier, entry) =>
        (identifier, entry.write name later) := by
  obtain ⟨decision, hnew⟩ := exists_newAlias_eq unit name
  cases halias : unit.alias? name with
  | none =>
    refine ⟨decision, fun later h => ?_⟩
    simpa [aliasName, h.alias?_eq, halias] using hnew later h
  | some remembered =>
    have hcandidate := hunit name remembered halias
    cases havailable : unit.isAvailable remembered name with
    | true =>
      refine ⟨some (remembered, .nothing), fun later h => ?_⟩
      simp [aliasName, h.alias?_eq, halias, h.isAvailable_eq hcandidate, havailable]
    | false =>
      refine ⟨decision, fun later h => ?_⟩
      simpa [aliasName, h.alias?_eq, halias, h.isAvailable_eq hcandidate, havailable] using
        hnew later h

/-- **A resolution is decided by what is read.** Units that agree on that give the same answer, and
the same entry is made. -/
theorem exists_resolve_eq (hunit : AliasesAreCandidates unit) (name : String) :
    ∃ decision : Option (String × Entry), ∀ later, LooksSame name unit later →
      later.resolve name = decision.map fun (identifier, entry) =>
        (identifier, entry.write name later) := by
  obtain ⟨granted, entry, hbare⟩ := exists_bareName_eq unit name
  cases granted with
  | some identifier =>
    refine ⟨some (identifier, entry), fun later h => ?_⟩
    rw [resolve, hbare later h]
    rfl
  | none =>
    obtain ⟨decision, halias⟩ := exists_aliasName_eq hunit name
    refine ⟨decision, fun later h => ?_⟩
    -- a refused bare identifier leaves no trace
    have hrefused := (eq_of_bareName_none (hbare later h)).1
    rw [resolve, hbare later h, hrefused]
    exact halias later h

/-! ### Independent entries -/

/-- Entries under different keys do not depend on their order. -/
theorem insertIfNew_comm (map : Std.ExtTreeMap String String) {k l : String} (hne : k ≠ l)
    (v w : String) :
    (map.insertIfNew k v).insertIfNew l w = (map.insertIfNew l w).insertIfNew k v := by
  refine Std.ExtTreeMap.ext_getElem? fun x => ?_
  simp only [Std.ExtTreeMap.getElem?_insertIfNew, Std.ExtTreeMap.mem_insertIfNew,
    Std.LawfulEqCmp.compare_eq_iff_eq]
  by_cases hk : k = x
  · subst hk
    simp [hne, hne.symm]
  · by_cases hl : l = x
    · subst hl
      simp [hne]
    · simp [hk, hl]

/-- An entry for one name does not concern an independent one. -/
theorem Entry.looksSame_write (h : Independent first second) (entry : Entry) (unit : NamingUnit) :
    LooksSame second unit (entry.write first unit) where
  isLocal_eq _ := rfl
  isTopLevel_eq := rfl
  isSharedTopLevel_eq _ := rfl
  imported?_eq identifier hidentifier := by
    cases hentry : entry.identifier? first with
    | none => simp [imported?, write, hentry]
    | some x =>
      have hne : x ≠ identifier := by
        rintro rfl
        exact h x (isCandidate_of_identifier? hentry) hidentifier
      simp [imported?, write, hentry, Std.ExtTreeMap.getElem?_insertIfNew, hne]
  alias?_eq := by
    cases halias : entry.alias? first with
    | none => simp [NamingUnit.alias?, write, halias]
    | some x => simp [NamingUnit.alias?, write, halias, Std.ExtTreeMap.getElem?_insertIfNew, h.ne]

/-- **Entries for independent names commute.** -/
theorem Entry.write_comm (h : Independent first second) (entry other : Entry)
    (unit : NamingUnit) :
    other.write second (entry.write first unit) = entry.write first (other.write second unit) := by
  have himports : (other.write second (entry.write first unit)).imports =
      (entry.write first (other.write second unit)).imports := by
    cases hentry : entry.identifier? first with
    | none => simp [write, hentry]
    | some x =>
      cases hother : other.identifier? second with
      | none => simp [write, hentry, hother]
      | some y =>
        have hne : x ≠ y := by
          rintro rfl
          exact h x (isCandidate_of_identifier? hentry) (isCandidate_of_identifier? hother)
        simp [write, hentry, hother, insertIfNew_comm _ hne]
  have haliases : (other.write second (entry.write first unit)).aliases =
      (entry.write first (other.write second unit)).aliases := by
    cases hentry : entry.alias? first <;> cases hother : other.alias? second <;>
      simp [write, hentry, hother, insertIfNew_comm _ h.ne]
  calc other.write second (entry.write first unit)
    _ = { unit with
          imports := (other.write second (entry.write first unit)).imports
          aliases := (other.write second (entry.write first unit)).aliases } := rfl
    _ = { unit with
          imports := (entry.write first (other.write second unit)).imports
          aliases := (entry.write first (other.write second unit)).aliases } := by
      rw [himports, haliases]
    _ = entry.write first (other.write second unit) := rfl

/-! ### Both orders -/

/-- A resolution makes an entry, which a unit that looks the same gets for the same answer. -/
theorem exists_entry_of_resolve (hunit : AliasesAreCandidates unit)
    (h : unit.resolve name = some (identifier, next)) :
    ∃ entry : Entry, next = entry.write name unit ∧ ∀ later, LooksSame name unit later →
      later.resolve name = some (identifier, entry.write name later) := by
  obtain ⟨decision, hdecision⟩ := exists_resolve_eq hunit name
  rw [hdecision unit (.refl name unit), Option.map_eq_some_iff] at h
  obtain ⟨⟨granted, entry⟩, rfl, heq⟩ := h
  obtain ⟨rfl, rfl⟩ := Prod.mk.inj heq
  exact ⟨entry, rfl, hdecision⟩

/-- Two independent references that can be made at one moment can follow each other in either
order. -/
theorem exists_resolve_both (hunit : AliasesAreCandidates unit) (h : Independent first second)
    {i j : String} (hfirst : unit.resolve first = some (i, next))
    (hsecond : unit.resolve second = some (j, later)) :
    ∃ last, next.resolve second = some (j, last) ∧ later.resolve first = some (i, last) := by
  obtain ⟨entry, rfl, hagain⟩ := exists_entry_of_resolve hunit hfirst
  obtain ⟨other, rfl, hagain'⟩ := exists_entry_of_resolve hunit hsecond
  refine ⟨other.write second (entry.write first unit), ?_, ?_⟩
  · exact hagain' _ (entry.looksSame_write h unit)
  · rw [Entry.write_comm h]
    exact hagain _ (other.looksSame_write h.symm unit)

/-- A reference that can be made after an independent one can be made before it. -/
theorem exists_resolve_before (hunit : AliasesAreCandidates unit) (h : Independent first second)
    {i j : String} (hfirst : unit.resolve first = some (i, next))
    (hsecond : next.resolve second = some (j, later)) :
    ∃ other, unit.resolve second = some (j, other) := by
  obtain ⟨entry, rfl, -⟩ := exists_entry_of_resolve hunit hfirst
  obtain ⟨decision, hdecision⟩ := exists_resolve_eq hunit second
  rw [hdecision _ (entry.looksSame_write h unit), Option.map_eq_some_iff] at hsecond
  obtain ⟨⟨granted, other⟩, rfl, heq⟩ := hsecond
  obtain ⟨rfl, -⟩ := Prod.mk.inj heq
  exact ⟨other.write second unit, hdecision unit (.refl second unit)⟩

/-- What two independent references come to in one order, they come to in the other. -/
theorem exists_resolve_swap (hunit : AliasesAreCandidates unit) (h : Independent first second)
    {i j : String} (hfirst : unit.resolve first = some (i, next))
    (hsecond : next.resolve second = some (j, later)) :
    ∃ other, unit.resolve second = some (j, other) ∧ other.resolve first = some (i, later) := by
  obtain ⟨other, hother⟩ := exists_resolve_before hunit h hfirst hsecond
  obtain ⟨last, hlast, hswapped⟩ := exists_resolve_both hunit h hfirst hother
  rw [hsecond] at hlast
  obtain ⟨-, rfl⟩ := Prod.mk.inj (Option.some.inj hlast)
  exact ⟨other, hother, hswapped⟩

/-- **Independent references commute.** Let a unit whose names are declared be written up to some
moment, and let two names have no candidate in common. When each of them can be resolved there, they
can be resolved one after the other in either order. Each gets the identifier that it would have got
alone, and both orders end in the same unit, with the same import header. Whenever one order gives a
result at all, the other one gives the same. -/
theorem independent_references_commute (hstart : Prepared start) {calls : List Call}
    (hcalls : ∀ call ∈ calls, call.step.isWriting = true) {answers : List Answer}
    (hrun : start.runCalls calls = some (answers, unit)) (h : Independent first second) :
    (∀ i next j later, unit.resolve first = some (i, next) →
      unit.resolve second = some (j, later) →
        ∃ last, next.resolve second = some (j, last) ∧ later.resolve first = some (i, last)) ∧
    ∀ i j last,
      (∃ next, unit.resolve first = some (i, next) ∧ next.resolve second = some (j, last)) ↔
        ∃ next, unit.resolve second = some (j, next) ∧ next.resolve first = some (i, last) := by
  have hunit := aliasesAreCandidates_of_runCalls hstart hcalls hrun
  constructor
  · intro i next j later hfirst hsecond
    exact exists_resolve_both hunit h hfirst hsecond
  · intro i j last
    constructor
    · rintro ⟨next, hfirst, hsecond⟩
      exact exists_resolve_swap hunit h hfirst hsecond
    · rintro ⟨next, hsecond, hfirst⟩
      exact exists_resolve_swap hunit h.symm hsecond hfirst

/-- Two foreign names, of which one needs an alias and the other one an alias with a digest. -/
theorem independent_references_commute_sockets :
    let start := (ofLabel "net/Sockets.kt").declareTopLevels ["ui.Button"]
    let calls := [Step.resolve "java.Socket", .enterScope, .bindLocal "web_Socket"].map
      (Call.mk .default)
    ∃ answers unit next later last,
      start.runCalls calls = some (answers, unit) ∧
        unit.resolve "gadget.Button" = some ("gadget_Button", next) ∧
        unit.resolve "web.Socket" = some ("web_Socket_af147486", later) ∧
        next.resolve "web.Socket" = some ("web_Socket_af147486", last) ∧
        later.resolve "gadget.Button" = some ("gadget_Button", last) := by
  intro start calls
  have hcompletes : ((start.runCalls calls).bind fun result =>
      (result.2.resolve "gadget.Button").bind fun granted =>
        (result.2.resolve "web.Socket").map fun granted' =>
          decide (granted.1 = "gadget_Button" ∧ granted'.1 = "web_Socket_af147486")) =
      some true := by
    decide +kernel
  obtain ⟨⟨answers, unit⟩, hrun, hcompletes⟩ := Option.bind_eq_some_iff.mp hcompletes
  obtain ⟨⟨i, next⟩, hfirst, hcompletes⟩ := Option.bind_eq_some_iff.mp hcompletes
  obtain ⟨⟨j, later⟩, hsecond, hcompletes⟩ := Option.map_eq_some_iff.mp hcompletes
  obtain ⟨rfl, rfl⟩ : i = "gadget_Button" ∧ j = "web_Socket_af147486" :=
    of_decide_eq_true hcompletes
  have hindependent : Independent "gadget.Button" "web.Socket" :=
    independent_of_letter (c := 'B') (by decide) (by decide) (by decide) (by decide)
  obtain ⟨last, hlast, hlast'⟩ := (independent_references_commute
    ((Prepared.ofLabel _).declareTopLevels _) (by decide) hrun hindependent).1 _ _ _ _ hfirst hsecond
  exact ⟨answers, unit, next, later, last, hrun, hfirst, hsecond, hlast, hlast'⟩

end Nomenclator.NamingUnit
