import Nomenclator.NamingUnit.Imports
import Nomenclator.Proofs.Identifier.Path
import Nomenclator.Proofs.NamingUnit.Consistency
import Nomenclator.Proofs.Text.ByteOrder

/-!
# The import header is what the references used

The header is computed from the claims of the unit, and the references come from elsewhere. They
agree (`header_exact`): there is one line for each name and identifier that a reference was given,
apart from the declarations of the unit under their own identifiers, and the form of the line is
that of the reference. The account of the unit provides for the one half. For the other half, an
alias is never the identifier of the name's own last segment, so the form can be read off the claim.
-/

namespace Nomenclator.NamingUnit

open Text (utf8Bytes)

variable {settings : Settings} {start unit last : NamingUnit} {name identifier : String}

/-! ### The claims that are listed -/

/-- The order of the header: names are compared byte by byte, and then identifiers. -/
def BytewiseBefore (first second : String × String) : Prop :=
  utf8Bytes first.1 < utf8Bytes second.1 ∨
    first.1 = second.1 ∧ utf8Bytes first.2 < utf8Bytes second.2

/-- The header lists the claims that need an import. -/
theorem mem_importPairs_iff :
    (name, identifier) ∈ unit.importPairs ↔
      unit.imported? identifier = some name ∧
        ¬(unit.isTopLevel name = true ∧ identifier = Identifier.ofSimpleName name) := by
  have hneeds : unit.needsImport identifier name = true ↔
      ¬(unit.isTopLevel name = true ∧ identifier = Identifier.ofSimpleName name) := by
    cases hdeclared : unit.isTopLevel name <;> simp [needsImport, isAliased, hdeclared]
  rw [importPairs, List.mem_mergeSort, ← hneeds, imported?]
  simp only [List.mem_map, List.mem_filter, importList, Prod.exists, Prod.swap_prod_mk,
    Prod.mk.injEq, Std.ExtTreeMap.mem_toList_iff_getElem?_eq_some]
  constructor
  · rintro ⟨x, n, hmem, rfl, rfl⟩
    exact hmem
  · intro hmem
    exact ⟨identifier, name, hmem, rfl, rfl⟩

/-- A line of the header has an alias exactly if the identifier is not the last segment of the
path. -/
theorem importLine_eq (name identifier : String) :
    importLine name identifier = "import " ++ Identifier.sanitizePath name ∧
        DottedName.simpleName (Identifier.sanitizePath name) = identifier ∨
      importLine name identifier =
          "import " ++ Identifier.sanitizePath name ++ " as " ++ identifier ∧
        DottedName.simpleName (Identifier.sanitizePath name) ≠ identifier := by
  rw [Identifier.simpleName_sanitizePath, importLine]
  split
  · rename_i haliased
    rw [isAliased, bne_iff_ne] at haliased
    exact Or.inr ⟨rfl, haliased.symm⟩
  · rename_i hbare
    rw [isAliased, bne_iff_ne, not_not] at hbare
    exact Or.inl ⟨rfl, hbare.symm⟩

/-- What stands in order without being equal stands in byte order. -/
private theorem bytewiseBefore_of_isLE {first second : String × String}
    (hle : (compareLex (compareOn Prod.fst) (compareOn Prod.snd) first second).isLE = true)
    (hne : first ≠ second) : BytewiseBefore first second := by
  rw [compareLex, Ordering.isLE_then_iff_or, Ordering.isLE_iff_eq_lt_or_eq_eq, compareOn, compareOn,
    compare_lt_iff_lt, compare_eq_iff_eq, compare_lt_iff_lt, compare_eq_iff_eq,
    Text.lt_iff_utf8Bytes_lt, Text.lt_iff_utf8Bytes_lt] at hle
  refine hle.imp_right fun ⟨hname, hidentifier⟩ => ⟨hname, ?_⟩
  exact hidentifier.resolve_right fun heq => hne (Prod.ext hname heq)

/-- The header is in byte order, and nothing is listed twice. -/
theorem pairwise_importPairs (unit : NamingUnit) : unit.importPairs.Pairwise BytewiseBefore := by
  have hsorted : unit.importPairs.Pairwise fun a b =>
      (compareLex (compareOn Prod.fst) (compareOn Prod.snd) a b).isLE = true := by
    refine List.pairwise_mergeSort (fun a b c => Std.TransCmp.isLE_trans) (fun a b => ?_) _
    have hswap : compareLex (compareOn Prod.fst) (compareOn Prod.snd) b a =
        (compareLex (compareOn Prod.fst) (compareOn Prod.snd) a b).swap :=
      Std.OrientedCmp.eq_swap
    rw [hswap]
    cases compareLex (compareOn Prod.fst) (compareOn Prod.snd) a b <;> rfl
  have hnodup : unit.importPairs.Nodup := by
    -- the claims are listed by their identifiers, which differ
    have hclaims : unit.importList.Nodup := by
      refine Std.ExtTreeMap.distinct_keys_toList.imp fun hkeys heq => hkeys ?_
      rw [heq]
      exact Std.ReflCmp.compare_self
    exact (List.mergeSort_perm _ _).nodup_iff.mpr
      ((hclaims.filter _).map Prod.swap_injective)
  exact (hsorted.and hnodup).imp fun ⟨hle, hne⟩ => bytewiseBefore_of_isLE hle hne

/-! ### The claims and the references -/

/-- The line that imports a name for a reference to it. A reference that was given no identifier
needs no import. -/
def Reference.importLine? (reference : Reference) : Option String :=
  match reference.grant with
  | .bare _ => some ("import " ++ Identifier.sanitizePath reference.name)
  | .aliased identifier =>
    some ("import " ++ Identifier.sanitizePath reference.name ++ " as " ++ identifier)
  | .path => none

/-- The line for a claim is the line for each reference that was given it. -/
theorem importLine?_eq {next : NamingUnit} {reference : Reference}
    (h : Answers reference.moment reference.name reference.grant next)
    (hidentifier : reference.identifier? = some identifier) :
    reference.importLine? = some (importLine reference.name identifier) := by
  unfold Reference.identifier? at hidentifier
  unfold Reference.importLine? importLine isAliased
  rcases h.grant_cases with hgrant | ⟨x, hgrant, hne⟩ | hgrant
  · rw [hgrant] at hidentifier ⊢
    simp [← Option.some.inj hidentifier]
  · rw [hgrant] at hidentifier ⊢
    obtain rfl := Option.some.inj hidentifier
    simp [hne]
  · rw [hgrant] at hidentifier
    cases hidentifier

/-- An identifier is listed for a name when a reference was given it, unless it is the own
identifier of a declaration. -/
theorem mem_importPairs_iff_handed_out {made : List Reference} (hunit : Consistent unit)
    (haccounts : Accounts made unit) :
    (name, identifier) ∈ unit.importPairs ↔
      (∃ reference ∈ made, reference.name = name ∧ reference.identifier? = some identifier) ∧
        ¬(unit.isTopLevel name = true ∧ identifier = Identifier.ofSimpleName name) := by
  rw [mem_importPairs_iff]
  refine and_congr_left fun hneeds => ⟨haccounts.handed_out, ?_⟩
  rintro ⟨reference, hmem, rfl, hidentifier⟩
  -- what was handed out without a claim is the own identifier of a declaration
  refine (haccounts.claimed_or_sole hmem hidentifier).resolve_right fun hsole => hneeds ?_
  obtain ⟨hdeclared, hwritten⟩ := hunit.mem_topLevelsWritten_iff.mp ((hsole _).mpr rfl)
  exact ⟨hdeclared, hwritten.symm⟩

/-- **The import header is what the references used.** Let `steps` be performed on a unit whose
names are declared. The header lists, once and in byte order, each name with each identifier that
`steps` handed out for it, apart from the declarations of the unit under their own identifiers. Its
lines have the forms of the references: the bare path for a bare identifier, and the path with the
alias for an alias, which is never the bare identifier of the same name. The answers of the run are
those that its references give. -/
theorem header_exact (hstart : Prepared start) {steps : List Step}
    (hsteps : ∀ step ∈ steps, step.isWriting = true) {answers : List Answer}
    (hrun : start.run settings steps = some (answers, last)) :
    last.importPairs.Pairwise BytewiseBefore ∧
    (∀ name identifier, (name, identifier) ∈ last.importPairs ↔
      (∃ reference ∈ start.references settings steps,
        reference.name = name ∧ reference.identifier? = some identifier) ∧
      ¬(last.isTopLevel name = true ∧ identifier = Identifier.ofSimpleName name)) ∧
    List.Forall₂ (fun pair line => ∀ reference ∈ start.references settings steps,
        reference.name = pair.1 → reference.identifier? = some pair.2 →
          reference.importLine?.map Snippet.ofText = some line)
      last.importPairs last.importSnippets ∧
    (∀ reference ∈ start.references settings steps, ∀ identifier,
      reference.grant = .aliased identifier →
        identifier ≠ Identifier.ofSimpleName reference.name) ∧
    AnsweredBy (steps.map (Call.mk settings)) (start.references settings steps) answers := by
  have hwritten := Written.of_run hstart hsteps hrun
  refine ⟨pairwise_importPairs last, ?_, ?_, ?_, answeredBy_of_run hsteps hrun⟩
  · intro name identifier
    exact mem_importPairs_iff_handed_out hwritten.consistent hwritten.accounts
  · rw [importSnippets, List.forall₂_map_right_iff, List.forall₂_same]
    rintro ⟨name, identifier⟩ - reference hmem rfl hidentifier
    obtain ⟨_, hanswers⟩ := hwritten.answers_of_mem hmem
    rw [importLine?_eq hanswers hidentifier, Option.map_some]
  · intro reference hmem identifier hgrant
    obtain ⟨_, hanswers⟩ := hwritten.answers_of_mem hmem
    rcases hanswers.grant_cases with hbare | ⟨x, haliased, hne⟩ | hpath
    · rw [hgrant] at hbare
      cases hbare
    · rw [hgrant] at haliased
      rwa [Grant.aliased.inj haliased]
    · rw [hgrant] at hpath
      cases hpath

/-- A declaration is imported where a local name forced an alias on it, and only there. A name that
was written as a path is not imported. -/
theorem header_exact_sockets :
    let start := (ofLabel "net/Sockets.kt").declareTopLevels ["app.Main", "app.Options"]
    let steps := [Step.resolve "java.Socket", .writeName "app.Main", .enterScope,
      .bindLocal "Options", .resolve "app.Options", .writeBareOrPath "web.Socket"]
    ∃ answers last, start.run .default steps = some (answers, last) ∧
      last.importPairs.Pairwise BytewiseBefore ∧
      Snippet.ofText "import app.Options as app_Options" ∈ last.importSnippets ∧
      ("app.Main", "Main") ∉ last.importPairs ∧
      ∀ identifier, ("web.Socket", identifier) ∉ last.importPairs := by
  intro start steps
  have hmade : (start.references .default steps).map
      (fun reference => (reference.name, reference.identifier?)) =
        [("java.Socket", some "Socket"), ("app.Main", some "Main"),
          ("app.Options", some "app_Options"), ("web.Socket", none)] := by
    decide +kernel
  have hcompletes : (start.run .default steps).map (fun result => result.2.isTopLevel "app.Main") =
      some true := by
    decide +kernel
  obtain ⟨⟨answers, last⟩, hrun, hdeclared⟩ := Option.map_eq_some_iff.mp hcompletes
  obtain ⟨hsorted, hlisted, -⟩ :=
    header_exact ((Prepared.ofLabel _).declareTopLevels _) (by decide) hrun
  have hgiven (name identifier : String) :
      (∃ reference ∈ start.references .default steps,
        reference.name = name ∧ reference.identifier? = some identifier) ↔
      (name, some identifier) ∈ [("java.Socket", some "Socket"), ("app.Main", some "Main"),
          ("app.Options", some "app_Options"), ("web.Socket", none)] := by
    rw [← hmade, List.mem_map]
    simp only [Prod.mk.injEq]
  refine ⟨answers, last, hrun, hsorted, ?_, ?_, ?_⟩
  · have hmem : ("app.Options", "app_Options") ∈ last.importPairs := by
      rw [hlisted, hgiven]
      exact ⟨by decide, fun hown => absurd hown.2 (by decide +kernel)⟩
    exact List.mem_map.mpr ⟨_, hmem, by decide +kernel⟩
  · rw [hlisted]
    exact fun hmem => hmem.2 ⟨hdeclared, by decide +kernel⟩
  · intro identifier hmem
    rw [hlisted, hgiven] at hmem
    simp at hmem

end Nomenclator.NamingUnit
