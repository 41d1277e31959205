import Nomenclator.Proofs.Interop.TypeName
import Nomenclator.Proofs.Interop.ValueName

/-!
# Names inside and outside members

Whether a type is named for a member is asked in one place only: where its name begins with the
package of its outermost type. The types around it, the arrays and the type variables add to what is
there already. So a name outside members is the name for a member with the reserved namespace in
front, or it is the same name.

It takes the namespace when nothing keeps the package from being the beginning
(`TypeDeclaration.TakesNamespace`, `Interop.CoreTakesNamespace`).
-/

namespace Nomenclator

/-- A top-level type is named after a package below a reserved root. -/
def TypeTraits.IsInReservedPackage (settings : Settings) (traits : TypeTraits) : Prop :=
  traits.interopNamePrefix? = none ∧
    ∃ package ∈ traits.package?, settings.IsBelowReservedRoot package

instance (settings : Settings) (traits : TypeTraits) :
    Decidable (traits.IsInReservedPackage settings) :=
  inferInstanceAs (Decidable (_ ∧ _))

/-- The name of a type begins with a package below a reserved root: there is no fixed name on the
enclosing chain, and the outermost type is named after such a package. -/
def TypeDeclaration.TakesNamespace (settings : Settings) (declaration : TypeDeclaration) : Prop :=
  (∀ traits ∈ declaration.chain, Interop.IsUnfixed settings traits) ∧
    ∃ outermost ∈ declaration.chain.getLast?, outermost.IsInReservedPackage settings

instance (settings : Settings) (declaration : TypeDeclaration) :
    Decidable (declaration.TakesNamespace settings) :=
  inferInstanceAs (Decidable (_ ∧ _))

namespace Interop

variable {settings : Settings} {useId : Bool} {core : TypeDescriptor} {base : String}

/-! ### Types -/

/-- The package of a top-level type is where the two names part. -/
theorem topLevelPart_false_eq (settings : Settings) (traits : TypeTraits) :
    topLevelPart settings false traits =
      (if traits.IsInReservedPackage settings then nameSegment settings.reservedRootNamespace
        else "") ++ topLevelPart settings true traits := by
  rw [topLevelPart, topLevelPart]
  cases hunmarked : traits.interopNamePrefix? with
  | some start =>
    have hnot : ¬traits.IsInReservedPackage settings := by
      simp [TypeTraits.IsInReservedPackage, hunmarked]
    rw [if_neg hnot, String.empty_append]
  | none =>
    cases hpackage : traits.package? with
    | none =>
      have hnot : ¬traits.IsInReservedPackage settings := by
        simp [TypeTraits.IsInReservedPackage, hpackage]
      rw [if_neg hnot, String.empty_append]
    | some package =>
      have hiff : traits.IsInReservedPackage settings ↔ settings.IsBelowReservedRoot package := by
        simp [TypeTraits.IsInReservedPackage, hunmarked, hpackage]
      have hmember : packagePart settings true package =
          String.join ((DottedName.segments package).map nameSegment) := by
        rw [packagePart, packageSegments_of_plain (Or.inl rfl)]
      dsimp only
      rw [hmember, packagePart]
      by_cases hreserved : settings.IsBelowReservedRoot package
      · rw [if_pos (hiff.mpr hreserved), packageSegments_of_reserved hreserved, List.map_cons,
          String.join_cons]
      · rw [if_neg (mt hiff.mp hreserved), packageSegments_of_plain (Or.inr hreserved),
          String.empty_append]

/-- **The two names of a type differ by the reserved namespace at most.** -/
theorem typeName_false_eq (settings : Settings) (declaration : TypeDeclaration) :
    typeName settings false declaration =
      (if declaration.TakesNamespace settings then nameSegment settings.reservedRootNamespace
        else "") ++ typeName settings true declaration := by
  by_cases hunfixed : ∀ traits ∈ declaration.chain, IsUnfixed settings traits
  · obtain ⟨inner, outermost, hchain⟩ := declaration.exists_chain_eq_append
    have htakes : declaration.TakesNamespace settings ↔ outermost.IsInReservedPackage settings := by
      rw [TypeDeclaration.TakesNamespace, and_iff_right hunfixed, hchain]
      simp
    rw [hchain] at hunfixed
    rw [typeName_of_unfixed hchain hunfixed, typeName_of_unfixed hchain hunfixed,
      topLevelPart_false_eq]
    simp only [htakes, String.append_assoc]
  · have hnot : ¬declaration.TakesNamespace settings := fun h => hunfixed h.1
    obtain ⟨inner, base, outer, name, hchain, hinner, hbase⟩ := exists_first_fixed hunfixed
    rw [if_neg hnot, typeName_of_chain_eq hchain hinner hbase,
      typeName_of_chain_eq hchain hinner hbase, String.empty_append]

example : ∃ map, TypeDeclaration.ofQualifiedName "java.util.Map" = .ok map ∧
    map.TakesNamespace .default ∧ typeName .default false map = "J2ktJavaUtilMap" := by
  refine ⟨_, rfl, ?_, ?_⟩
  · decide
  · decide

/-! ### Value types -/

/-- The name of a core begins with a package below a reserved root: it is the name of a declared
type, and it is not `id`. -/
def CoreTakesNamespace (settings : Settings) (useId : Bool) : TypeDescriptor → Prop
  | .declared declaration =>
    ¬(useId = true ∧ declaration.qualifiedName.spelling = "java.lang.Object") ∧
      declaration.TakesNamespace settings
  | .primitive _ | .array .. | .typeVariable .. | .intersection _ => False

instance (settings : Settings) (useId : Bool) (core : TypeDescriptor) :
    Decidable (CoreTakesNamespace settings useId core) :=
  match core with
  | .declared _ => inferInstanceAs (Decidable (_ ∧ _))
  | .primitive _ | .array .. | .typeVariable .. | .intersection _ => instDecidableFalse

/-- The name of a core outside members, from its name for a member. -/
theorem HasCoreName.outside_members (h : HasCoreName settings true useId core base) :
    HasCoreName settings false useId core
      ((if CoreTakesNamespace settings useId core then nameSegment settings.reservedRootNamespace
        else "") ++ base) := by
  cases h with
  | @primitive kind name hname =>
    have hnot : ¬CoreTakesNamespace settings useId (.primitive kind) := not_false
    rw [if_neg hnot, String.empty_append]
    exact .primitive hname
  | @anyObject declaration huse hroot =>
    have hnot : ¬CoreTakesNamespace settings useId (.declared declaration) :=
      fun h => h.1 ⟨huse, hroot⟩
    rw [if_neg hnot, String.empty_append]
    exact .anyObject huse hroot
  | @declared declaration hobject =>
    have htakes : CoreTakesNamespace settings useId (.declared declaration) ↔
        declaration.TakesNamespace settings := and_iff_right hobject
    have hname := typeName_false_eq settings declaration
    simp only [← htakes] at hname
    rw [← hname]
    exact .declared hobject
  | @intersection members =>
    have hnot : ¬CoreTakesNamespace settings useId (.intersection members) := not_false
    rw [if_neg hnot, String.empty_append]
    exact .intersection

/-- **Names outside members are names for members, at most with the reserved namespace in front.**
It is in front of the name of a type when no type on the enclosing chain has a fixed name and the
outermost type has no attached prefix and a package below a reserved root. It is in front of the
name of a value type when it is in front of the name of its core, a declared type that is not named
`id`. A value type that has no name for a member has none outside members, for the same reason. -/
theorem reserved_namespace_in_front (settings : Settings) :
    (∀ declaration, typeName settings false declaration =
      (if declaration.TakesNamespace settings then nameSegment settings.reservedRootNamespace
        else "") ++ typeName settings true declaration) ∧
    ∀ location useId type,
      (∃ error, descriptorName settings false location useId type = .error error ∧
        descriptorName settings true location useId type = .error error) ∨
      ∃ name, descriptorName settings true location useId type = .ok name ∧
        descriptorName settings false location useId type =
          .ok ((if CoreTakesNamespace settings (useId && type.arrayDimensions.isEmpty) type.core
            then nameSegment settings.reservedRootNamespace else "") ++ name) := by
  refine ⟨typeName_false_eq settings, fun location useId type => ?_⟩
  by_cases hnull : type.EndsInNull
  · exact Or.inl ⟨_, descriptorName_of_endsInNull hnull, descriptorName_of_endsInNull hnull⟩
  · obtain ⟨base, hbase⟩ := exists_hasCoreName hnull
    refine Or.inr ⟨_, descriptorName_of_hasCoreName hbase, ?_⟩
    rw [descriptorName_of_hasCoreName hbase.outside_members, String.append_assoc]

end Interop

end Nomenclator
