import Nomenclator.Proofs.NamingUnit.Consistency

/-!
# The owner of an identifier

A name owns an identifier when it is claimed for the name, or when nobody has claimed it and the
name is the one declaration that is written with it. An identifier has one owner (`Owns.unique`),
and the owner keeps it (`Owns.mono`).

Ownership decides what becomes of a bare identifier that no live scope binds: its name gets it
without a further claim when the name owns it (`bareName_of_owns`), and is refused for a reason that
stays (`RefusesBare.mono`) otherwise.
-/

namespace Nomenclator.NamingUnit

variable {start unit later last : NamingUnit} {name identifier : String}

/-- A name owns an identifier by a claim, or as the only declaration written with it. -/
def Owns (unit : NamingUnit) (name identifier : String) : Prop :=
  unit.imported? identifier = some name ∨
    unit.imported? identifier = none ∧
      ∀ declared, unit.isTopLevel declared = true ∧ Identifier.ofSimpleName declared = identifier ↔
        declared = name

/-- An identifier has one owner. -/
theorem Owns.unique {first second : String} (hfirst : Owns unit first identifier)
    (hsecond : Owns unit second identifier) : first = second := by
  rcases hfirst with hfirst | ⟨hnone, hfirst⟩ <;> rcases hsecond with hsecond | ⟨hnone', hsecond⟩
  · exact Option.some.inj (hfirst.symm.trans hsecond)
  · rw [hnone'] at hfirst
    cases hfirst
  · rw [hnone] at hsecond
    cases hsecond
  · exact (hsecond first).mp ((hfirst first).mpr rfl)

/-- In a consistent unit, what is claimed or belongs to a sole declaration is owned. -/
theorem Consistent.owns (hunit : Consistent unit)
    (h : unit.imported? identifier = some name ∨ unit.IsSoleDeclaration identifier name) :
    Owns unit name identifier := by
  rcases h with himported | hsole
  · exact Or.inl himported
  cases himported : unit.imported? identifier with
  | none =>
    refine Or.inr ⟨himported, fun declared => ?_⟩
    rw [← hunit.mem_topLevelsWritten_iff]
    exact hsole declared
  | some owner =>
    -- the owner of a claim on the identifier of a declaration is such a declaration itself
    have howner := hunit.written_of_imported himported ((hsole name).mpr rfl)
    rw [(hsole owner).mp howner] at himported
    exact Or.inl himported

/-- An owner by declaration is a sole declaration. -/
theorem Owns.claimed_or_sole (hunit : Consistent unit) (h : Owns unit name identifier) :
    unit.imported? identifier = some name ∨ unit.IsSoleDeclaration identifier name := by
  refine h.imp_right fun hsole declared => ?_
  rw [hunit.mem_topLevelsWritten_iff]
  exact hsole.2 declared

/-- An owner stays the owner. -/
theorem Owns.mono (hunit : Consistent unit) (hlater : Consistent later)
    (hprecedes : Precedes unit later) (h : Owns unit name identifier) :
    Owns later name identifier :=
  hlater.owns ((h.claimed_or_sole hunit).imp hprecedes.imported hprecedes.isSoleDeclaration)

/-- What a reference hands out is owned afterwards. -/
theorem Answers.owns {next : NamingUnit} {grant : Grant} (hunit : Consistent unit)
    (h : Answers unit name grant next) (hidentifier : grant.identifier? = some identifier) :
    Owns next name identifier :=
  (h.consistent hunit).owns (h.claimed_or_sole hunit hidentifier)

/-- A unit owns all that it has handed out. -/
theorem Written.owns {made : List Reference} (h : Written start made last) {reference : Reference}
    (hmem : reference ∈ made) (hidentifier : reference.identifier? = some identifier) :
    Owns last reference.name identifier :=
  h.consistent.owns (h.accounts.claimed_or_sole hmem hidentifier)

/-! ### Bare identifiers -/

/-- **A name that owns its bare identifier gets it**, and nothing changes. -/
theorem bareName_of_owns (hunit : Consistent unit)
    (howns : Owns unit name (Identifier.ofSimpleName name))
    (hlocal : unit.isLocal (Identifier.ofSimpleName name) = false) :
    unit.bareName name = (some (Identifier.ofSimpleName name), unit) := by
  rcases howns.claimed_or_sole hunit with himported | hsole
  · exact bareName_of_imported himported hlocal
  · have hdeclared : unit.isTopLevel name = true :=
      (hunit.mem_topLevelsWritten_iff.mp ((hsole name).mpr rfl)).1
    have hshared : unit.isSharedTopLevel (Identifier.ofSimpleName name) name = false := by
      rw [Bool.eq_false_iff, ne_eq, isSharedTopLevel_iff]
      rintro ⟨other, hother, hne⟩
      exact hne ((hsole other).mp hother)
    simp [bareName, hlocal, hdeclared, hshared]

/-- Where there is a reason to refuse the bare identifier it is refused, and nothing changes. -/
theorem bareName_of_refusesBare (hunit : Consistent unit) (h : RefusesBare unit name) :
    unit.bareName name = (none, unit) := by
  cases hlocal : unit.isLocal (Identifier.ofSimpleName name) with
  | true => simp [bareName, hlocal]
  | false =>
    cases h with
    | bound h =>
      rw [hlocal] at h
      cases h
    | @taken owner himported hne =>
      cases hdeclared : unit.isTopLevel name with
      | false => simp [bareName, hlocal, hdeclared, himported, hne]
      | true =>
        -- the identifier of a declaration was claimed for a declaration, so it is shared
        have hname := hunit.mem_topLevelsWritten_iff.mpr ⟨hdeclared, rfl⟩
        have hshared : unit.isSharedTopLevel (Identifier.ofSimpleName name) name = true :=
          (isSharedTopLevel_iff unit _ name).mpr
            ⟨owner, hunit.written_of_imported himported hname, hne⟩
        simp [bareName, hlocal, hdeclared, hshared, claim, himported, hne]
    | reserved hforeign hshared hfree => simp [bareName, hlocal, hforeign, hfree, hshared]

/-- A reason to refuse the bare identifier of a name stays a reason while the same local names are
bound. -/
theorem RefusesBare.mono (hlater : Consistent later) (hprecedes : Precedes unit later)
    (hlocals : ∀ x, later.isLocal x = unit.isLocal x) (h : RefusesBare unit name) :
    RefusesBare later name := by
  cases h with
  | bound h => exact .bound ((hlocals _).trans h)
  | taken himported hne => exact .taken (hprecedes.imported himported) hne
  | reserved hforeign hshared =>
    rw [← hprecedes.isTopLevel_eq] at hforeign
    rw [← hprecedes.isSharedTopLevel_eq] at hshared
    cases himported : later.imported? (Identifier.ofSimpleName name) with
    | none => exact .reserved hforeign hshared himported
    | some owner =>
      -- meanwhile a declaration has claimed its identifier
      obtain ⟨declared, hdeclared, -⟩ := (isSharedTopLevel_iff later _ name).mp hshared
      have howner := hlater.written_of_imported himported hdeclared
      refine .taken himported fun heq => ?_
      rw [heq, hlater.mem_topLevelsWritten_iff, hforeign] at howner
      cases howner.1

end Nomenclator.NamingUnit
