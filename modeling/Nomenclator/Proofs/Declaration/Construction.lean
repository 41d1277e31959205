import Nomenclator.Declaration
import Nomenclator.Proofs.Failure
import Nomenclator.Proofs.QualifiedName.Segments

/-!
# Declarations that were built are consistent

Where a type is declared is recorded three times: in its qualified name, in the simple names along
the enclosing chain, and in the package. Foreign names are made from the last two, while well-known
types and the root object are looked up by the first.

A declaration is built from a qualified name, by adding members, and by attaching what has no part
in this. A qualified name is cut into its package and its simple name, which are all of it
(`QualifiedName.spelling_eq`), and a member adds its own name to the qualified name and to the chain
alike. So the three records agree in every declaration that was built
(`IsBuilt.isConsistent`), also where members have dotted names.
-/

namespace Nomenclator

/-- What stands in front of the simple names of a type: its package and a dot, and nothing in the
default package. -/
def packageStart : Option String → String
  | some package => package ++ "."
  | none => ""

/-- **A qualified name is its package, a dot and its simple name.** -/
theorem QualifiedName.spelling_eq (name : QualifiedName) :
    name.spelling = packageStart name.package? ++ name.simpleName := by
  cases DottedName.lastSegment name.spelling with
  | whole h =>
    have hcomposed := isComposedOf_of_notMem h
    have hsimple : name.simpleName = name.spelling := by
      simpa using hcomposed.getLast?_eq.symm
    have hpackage : name.package? = none := hcomposed.package?_eq
    rw [hpackage, hsimple, packageStart, String.empty_append]
  | dotted outer last hname hlast =>
    obtain ⟨hsimple, hpackage, -⟩ := simpleName_package?_of_dotted hname hlast
    rw [hpackage, hsimple, packageStart, hname]

namespace TypeDeclaration

variable {declaration enclosing inner : TypeDeclaration} {name : String}
  {error : QualifiedName.Error}

/-! ### Building -/

/-- A declaration that was built from a qualified name by adding members and attaching facts. -/
inductive IsBuilt : TypeDeclaration → Prop
  | ofQualifiedName {name : String} {declaration : TypeDeclaration}
      (h : ofQualifiedName name = .ok declaration) : IsBuilt declaration
  | member {enclosing inner : TypeDeclaration} {name : String} (henclosing : IsBuilt enclosing)
      (h : enclosing.member name = .ok inner) : IsBuilt inner
  | withVisibility {declaration : TypeDeclaration} (visibility : Visibility)
      (h : IsBuilt declaration) : IsBuilt (declaration.withVisibility visibility)
  | asLocal {declaration : TypeDeclaration} (h : IsBuilt declaration) : IsBuilt declaration.asLocal
  | withInteropName {declaration : TypeDeclaration} (name : String) (h : IsBuilt declaration) :
      IsBuilt (declaration.withInteropName name)
  | withInteropNamePrefix {declaration : TypeDeclaration} (start : String)
      (h : IsBuilt declaration) : IsBuilt (declaration.withInteropNamePrefix start)

/-- A top-level type has the parts of its qualified name. -/
theorem exists_topLevel_of_ofQualifiedName (h : ofQualifiedName name = .ok declaration) :
    ∃ traits, declaration = .topLevel traits ∧
      traits.simpleSourceName = traits.qualifiedName.simpleName ∧
      traits.package? = traits.qualifiedName.package? := by
  obtain ⟨qualifiedName, -, hpure⟩ := bind_eq_ok_iff.mp h
  cases hpure
  exact ⟨_, rfl, rfl, rfl⟩

/-- A member adds its name to that of the enclosing type and stays in the package. -/
theorem exists_nested_of_member (h : enclosing.member name = .ok inner) :
    ∃ traits, inner = .nested traits enclosing ∧
      traits.qualifiedName.spelling = enclosing.qualifiedName.spelling ++ "." ++ name ∧
      traits.simpleSourceName = name ∧ traits.package? = enclosing.traits.package? := by
  obtain ⟨qualifiedName, hchild, hpure⟩ := bind_eq_ok_iff.mp h
  cases hpure
  exact ⟨_, rfl, QualifiedName.spelling_of_parse hchild, rfl, rfl⟩

/-- **A member is refused for an empty segment, and for nothing else.** -/
theorem member_eq_error_iff :
    enclosing.member name = .error error ↔
      error = .emptySegment (enclosing.qualifiedName.spelling ++ "." ++ name) ∧
        "" ∈ DottedName.segments name := by
  have hchild : enclosing.member name = .error error ↔
      enclosing.qualifiedName.child name = .error error := by
    rw [member, bind_eq_error_iff]
    simp [pure, Except.pure]
  rw [hchild]
  constructor
  · intro h
    cases error with
    | empty =>
      have hempty := QualifiedName.parse_eq_empty_iff.mp h
      simpa using congrArg String.toList hempty
    | emptySegment spelling =>
      obtain ⟨rfl, -⟩ := QualifiedName.parse_eq_emptySegment_iff.mp h
      exact ⟨rfl, QualifiedName.child_eq_error_iff.mp h⟩
  · rintro ⟨rfl, hmem⟩
    exact QualifiedName.child_eq_error_iff.mpr hmem

/-! ### Where a type is declared -/

/-- The simple names of a type and of its enclosing types, from the outside in. -/
def simpleNames (declaration : TypeDeclaration) : List String :=
  declaration.chain.reverse.map TypeTraits.simpleSourceName

/-- The three records of where a type is declared agree: the qualified name is the package and the
simple names along the chain, and the package is the same all along the chain. -/
structure IsConsistent (declaration : TypeDeclaration) : Prop where
  spelling_eq : declaration.qualifiedName.spelling =
    packageStart declaration.traits.package? ++ String.intercalate "." declaration.simpleNames
  package?_eq : ∀ traits ∈ declaration.chain, traits.package? = declaration.traits.package?

theorem simpleNames_nested (traits : TypeTraits) (enclosing : TypeDeclaration) :
    simpleNames (.nested traits enclosing) =
      enclosing.simpleNames ++ [traits.simpleSourceName] := by
  simp [simpleNames, chain]

theorem simpleNames_ne_nil (declaration : TypeDeclaration) : declaration.simpleNames ≠ [] := by
  cases declaration <;> simp [simpleNames, chain]

theorem isConsistent_topLevel {traits : TypeTraits}
    (hname : traits.simpleSourceName = traits.qualifiedName.simpleName)
    (hpackage : traits.package? = traits.qualifiedName.package?) :
    IsConsistent (.topLevel traits) where
  spelling_eq := by
    have hsimple : simpleNames (.topLevel traits) = [traits.qualifiedName.simpleName] :=
      congrArg List.singleton hname
    rw [hsimple, String.intercalate_singleton]
    exact hpackage ▸ traits.qualifiedName.spelling_eq
  package?_eq := List.forall_mem_singleton.mpr rfl

/-- A type inside a consistent one is consistent if it adds its name and keeps the package. -/
theorem IsConsistent.nested {traits : TypeTraits} (h : enclosing.IsConsistent)
    (hspelling : traits.qualifiedName.spelling =
      enclosing.qualifiedName.spelling ++ "." ++ traits.simpleSourceName)
    (hpackage : traits.package? = enclosing.traits.package?) :
    IsConsistent (.nested traits enclosing) where
  spelling_eq := by
    rw [simpleNames_nested, String.intercalate_append_of_ne_nil enclosing.simpleNames_ne_nil
      (List.cons_ne_nil _ _), String.intercalate_singleton]
    have hstart : packageStart traits.package? ++ String.intercalate "." enclosing.simpleNames =
        enclosing.qualifiedName.spelling := by
      rw [hpackage, h.spelling_eq]
    rw [← String.append_assoc, ← String.append_assoc]
    exact hspelling.trans (congrArg (· ++ "." ++ traits.simpleSourceName) hstart.symm)
  package?_eq := by
    refine List.forall_mem_cons.mpr ⟨rfl, fun other hmem => ?_⟩
    exact (h.package?_eq other hmem).trans hpackage.symm

/-- Facts that say nothing about where a type is declared can be attached to it. -/
theorem IsConsistent.withTraits {change : TypeTraits → TypeTraits} (h : declaration.IsConsistent)
    (hchange : ∀ traits, (change traits).qualifiedName = traits.qualifiedName ∧
      (change traits).simpleSourceName = traits.simpleSourceName ∧
      (change traits).package? = traits.package?) :
    (declaration.withTraits change).IsConsistent := by
  have htraits : (declaration.withTraits change).traits = change declaration.traits := by
    cases declaration <;> rfl
  have hnames : (declaration.withTraits change).simpleNames = declaration.simpleNames := by
    cases declaration <;> simp [simpleNames, TypeDeclaration.withTraits, chain, hchange]
  obtain ⟨hname, -, hpackage⟩ := hchange declaration.traits
  refine ⟨?_, ?_⟩
  · rw [qualifiedName, htraits, hname, hpackage, hnames]
    exact h.spelling_eq
  · rw [htraits, hpackage]
    cases declaration with
    | topLevel traits => exact List.forall_mem_singleton.mpr hpackage
    | nested traits enclosing =>
      exact List.forall_mem_cons.mpr ⟨hpackage, (List.forall_mem_cons.mp h.package?_eq).2⟩

/-- **A declaration that was built is consistent.** -/
theorem IsBuilt.isConsistent (h : IsBuilt declaration) : declaration.IsConsistent := by
  induction h with
  | ofQualifiedName h =>
    obtain ⟨traits, rfl, hname, hpackage⟩ := exists_topLevel_of_ofQualifiedName h
    exact isConsistent_topLevel hname hpackage
  | member _ h ih =>
    obtain ⟨traits, rfl, hspelling, rfl, hpackage⟩ := exists_nested_of_member h
    exact ih.nested hspelling hpackage
  | withVisibility visibility _ ih => exact ih.withTraits fun _ => ⟨rfl, rfl, rfl⟩
  | asLocal _ ih => exact ih.withTraits fun _ => ⟨rfl, rfl, rfl⟩
  | withInteropName name _ ih => exact ih.withTraits fun _ => ⟨rfl, rfl, rfl⟩
  | withInteropNamePrefix start _ ih => exact ih.withTraits fun _ => ⟨rfl, rfl, rfl⟩

/-- **Built declarations stay consistent.** The spelling of the qualified name is the package and a
dot, or nothing in the default package, and then the simple names from the outermost type inwards
with dots between them. All types on the enclosing chain have the same package. A member is refused
exactly if its name is empty or has an empty segment, with the error that names the empty segment,
and otherwise it is built. -/
theorem built_declarations_consistent (h : IsBuilt declaration) :
    declaration.qualifiedName.spelling =
      packageStart declaration.traits.package? ++
        String.intercalate "." (declaration.chain.reverse.map TypeTraits.simpleSourceName) ∧
    (∀ traits ∈ declaration.chain, traits.package? = declaration.traits.package?) ∧
    ∀ name,
      ((∃ inner, declaration.member name = .ok inner) ↔
        ¬(name = "" ∨ "" ∈ DottedName.segments name)) ∧
      ∀ error, declaration.member name = .error error ↔
        (name = "" ∨ "" ∈ DottedName.segments name) ∧
          error = .emptySegment (declaration.qualifiedName.spelling ++ "." ++ name) := by
  have hconsistent := h.isConsistent
  refine ⟨hconsistent.spelling_eq, hconsistent.package?_eq, fun name => ?_⟩
  have hrefused : name = "" ∨ "" ∈ DottedName.segments name ↔ "" ∈ DottedName.segments name := by
    refine or_iff_right_of_imp ?_
    rintro rfl
    exact DottedName.empty_mem_segments_empty
  rw [hrefused]
  refine ⟨?_, fun error => member_eq_error_iff.trans and_comm⟩
  cases hmember : declaration.member name with
  | error error => simpa using (member_eq_error_iff.mp hmember).2
  | ok inner =>
    refine iff_of_true ⟨inner, rfl⟩ fun hmem => ?_
    cases hmember.symm.trans (member_eq_error_iff.mpr ⟨rfl, hmem⟩)

/-- Members with dotted names, of a type in a package and of one in the default package. -/
theorem built_declarations_consistent_entries :
    ∃ map key main view,
      ofQualifiedName "java.util.Map" = .ok map ∧
      (map.withInteropName "M").member "Entry.Key" = .ok key ∧
      key.qualifiedName.spelling = "java.util.Map.Entry.Key" ∧
      ofQualifiedName "Main" = .ok main ∧ main.asLocal.member "View" = .ok view ∧
      (view.withInteropNamePrefix "X").qualifiedName.spelling = "Main.View" ∧
      view.member "Row." = .error (.emptySegment "Main.View.Row.") := by
  have hmap := @IsBuilt.ofQualifiedName "java.util.Map" _ rfl
  have hkey := @IsBuilt.member _ _ "Entry.Key" (hmap.withInteropName "M") rfl
  have hmain := @IsBuilt.ofQualifiedName "Main" _ rfl
  have hview := @IsBuilt.member _ _ "View" hmain.asLocal rfl
  refine ⟨_, _, _, _, rfl, rfl, ?_, rfl, rfl, ?_, ?_⟩
  · exact (built_declarations_consistent hkey).1.trans (by decide)
  · exact (built_declarations_consistent (hview.withInteropNamePrefix "X")).1.trans (by decide)
  · exact (((built_declarations_consistent hview).2.2 "Row.").2 _).mpr ⟨by decide, rfl⟩

end TypeDeclaration

end Nomenclator
