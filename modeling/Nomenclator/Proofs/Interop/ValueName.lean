import Mathlib.Tactic
import Nomenclator.Proofs.Interop.ValueType

/-!
# Names of value types

The name of a value type is the name of its core and one suffix for each array on the way there.
Type variables on the way leave no trace. Arrays do, and not only by their suffixes: under an array
the root object loses its short name `id`, which type variables let it keep. An intersection is `id`
wherever it stands (`HasCoreName`).

An array of arrays is one array of more dimensions, so arrays that are built one around the other
give one suffix (`iterate_arrayOf`).
-/

namespace Nomenclator

namespace TypeDescriptor

/-! ### Arrays on the way to the core -/

/-- The dimensions of the arrays between a value type and its core, from the innermost out. -/
def arrayDimensions : TypeDescriptor → List UInt64
  | array leaf dimensions => leaf.arrayDimensions ++ [dimensions]
  | typeVariable _ upperBound => upperBound.arrayDimensions
  | primitive _ | declared _ | intersection _ => []

end TypeDescriptor

namespace Interop

variable {settings : Settings} {forMember : Bool} {location : Location} {core : TypeDescriptor}
  {base : String}

/-! ### The name of the core -/

/-- The name of a type that is neither an array nor a type variable. -/
inductive HasCoreName (settings : Settings) (forMember useId : Bool) :
    TypeDescriptor → String → Prop
  | primitive {kind : PrimitiveKind} {name : String} (hname : primitiveName? kind = some name) :
      HasCoreName settings forMember useId (.primitive kind) name
  | anyObject {declaration : TypeDeclaration} (huse : useId = true)
      (hroot : declaration.qualifiedName.spelling = "java.lang.Object") :
      HasCoreName settings forMember useId (.declared declaration) "id"
  | declared {declaration : TypeDeclaration}
      (h : ¬(useId = true ∧ declaration.qualifiedName.spelling = "java.lang.Object")) :
      HasCoreName settings forMember useId (.declared declaration)
        (typeName settings forMember declaration)
  | intersection {members : List TypeDescriptor} :
      HasCoreName settings forMember useId (.intersection members) "id"

/-- Every core but the type of the `null` literal has a name. -/
theorem exists_hasCoreName {useId : Bool} {type : TypeDescriptor} (h : ¬type.EndsInNull) :
    ∃ base, HasCoreName settings forMember useId type.core base := by
  cases type with
  | primitive kind =>
    obtain ⟨name, hname⟩ := exists_primitiveName? fun hnull => h (congrArg _ hnull)
    exact ⟨name, .primitive hname⟩
  | array leaf dimensions =>
    have hleaf : ¬leaf.EndsInNull := h
    obtain ⟨base, hbase⟩ := exists_hasCoreName hleaf
    exact ⟨base, hbase⟩
  | declared declaration =>
    by_cases hroot : useId = true ∧ declaration.qualifiedName.spelling = "java.lang.Object"
    · exact ⟨_, .anyObject hroot.1 hroot.2⟩
    · exact ⟨_, .declared hroot⟩
  | typeVariable name upperBound =>
    have hbound : ¬upperBound.EndsInNull := h
    obtain ⟨base, hbase⟩ := exists_hasCoreName hbound
    exact ⟨base, hbase⟩
  | intersection members => exact ⟨_, .intersection⟩

/-! ### The name of a value type -/

/-- What an array adds to the name of its leaf: the word `Array`, and the number of dimensions if
there are several. -/
def arraySuffix (dimensions : ℕ) : String :=
  "Array" ++ if 1 < dimensions then toString dimensions else ""

theorem arrayPart_eq (dimensions : UInt64) : arrayPart dimensions = arraySuffix dimensions.toNat := by
  have hone : dimensions > 1 ↔ 1 < dimensions.toNat := UInt64.lt_iff_toNat_lt
  rw [arrayPart, arraySuffix]
  by_cases h : dimensions > 1
  · rw [if_pos h, if_pos (hone.mp h)]
  · rw [if_neg h, if_neg (mt hone.mpr h), String.append_empty]

/-- What all arrays on the way add to the name of the core. -/
def arraySuffixes (type : TypeDescriptor) : String :=
  String.join (type.arrayDimensions.map fun dimensions => arraySuffix dimensions.toNat)

theorem arraySuffixes_array (leaf : TypeDescriptor) (dimensions : UInt64) :
    arraySuffixes (.array leaf dimensions) = arraySuffixes leaf ++ arraySuffix dimensions.toNat := by
  simp [arraySuffixes, TypeDescriptor.arrayDimensions]

/-- **The name of a value type is the name of its core and then the suffixes.** -/
theorem descriptorName_of_hasCoreName {useId : Bool} {type : TypeDescriptor}
    (h : HasCoreName settings forMember (useId && type.arrayDimensions.isEmpty) type.core base) :
    descriptorName settings forMember location useId type = .ok (base ++ arraySuffixes type) := by
  cases type with
  | primitive kind =>
    cases h with
    | primitive hname =>
      rw [descriptorName, hname]
      exact congrArg _ String.append_empty.symm
  | array leaf dimensions =>
    -- the leaf is named without `id`, whatever was asked for
    have hflag : (useId && (leaf.arrayDimensions ++ [dimensions]).isEmpty) = false := by simp
    have hleaf : HasCoreName settings forMember (false && leaf.arrayDimensions.isEmpty) leaf.core
        base := by
      rw [TypeDescriptor.arrayDimensions, hflag] at h
      exact h
    rw [descriptorName, descriptorName_of_hasCoreName hleaf, arraySuffixes_array,
      ← String.append_assoc, ← arrayPart_eq]
    rfl
  | declared declaration =>
    have hguard : (useId && declaration.isRootObject) = true ↔
        useId = true ∧ declaration.qualifiedName.spelling = "java.lang.Object" := by
      rw [Bool.and_eq_true, TypeDeclaration.isRootObject, beq_iff_eq]
      rfl
    rw [TypeDescriptor.arrayDimensions, List.isEmpty_nil, Bool.and_true] at h
    rw [descriptorName]
    cases h with
    | anyObject huse hroot =>
      rw [if_pos (hguard.mpr ⟨huse, hroot⟩)]
      exact congrArg _ String.append_empty.symm
    | declared h =>
      rw [if_neg (mt hguard.mp h)]
      exact congrArg _ String.append_empty.symm
  | typeVariable name upperBound =>
    have hbound : HasCoreName settings forMember (useId && upperBound.arrayDimensions.isEmpty)
        upperBound.core base := h
    rw [descriptorName, descriptorName_of_hasCoreName hbound]
    rfl
  | intersection members =>
    cases h
    exact congrArg _ String.append_empty.symm

end Interop

end Nomenclator
