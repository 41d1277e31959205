import Nomenclator.Interop.TypeName

/-!
# Which value types have a name

An array is named after its leaf and a type variable after its bound, so a value type is named after
what is left when leaves and bounds have been followed to their end: its `core`. The members of an
intersection play no part in its name, and they are not followed.

Naming can fail at one place only. A value type whose core is the type of the `null` literal has no
name, and the place is reported with it (`descriptorName_of_endsInNull`). Every other one has a name
(`exists_descriptorName`).
-/

namespace Nomenclator

/-! ### The core of a value type -/

namespace TypeDescriptor

/-- What is left of a value type when the leaves of arrays and the bounds of type variables are
followed to their end. -/
def core : TypeDescriptor → TypeDescriptor
  | primitive kind => primitive kind
  | array leaf _ => leaf.core
  | declared declaration => declared declaration
  | typeVariable _ upperBound => upperBound.core
  | intersection members => intersection members

/-- Whether leaves and bounds lead to the type of the `null` literal. -/
def EndsInNull (type : TypeDescriptor) : Prop :=
  type.core = primitive .null

instance (type : TypeDescriptor) : Decidable type.EndsInNull :=
  match h : type.core with
  | primitive kind => decidable_of_iff (kind = .null) (by rw [EndsInNull, h, primitive.injEq])
  | array .. | declared _ | typeVariable .. | intersection _ =>
    isFalse (by rw [EndsInNull, h]; exact TypeDescriptor.noConfusion)

end TypeDescriptor

namespace Interop

variable {settings : Settings} {forMember : Bool} {location : Location}

/-! ### Names of value types -/

/-- The primitive types have names, apart from that of the `null` literal. -/
theorem exists_primitiveName? {kind : PrimitiveKind} (h : kind ≠ .null) :
    ∃ name, primitiveName? kind = some name := by
  cases kind with
  | null => exact absurd rfl h
  | _ => exact ⟨_, rfl⟩

/-- **A value type that comes down to `null` is reported**, with the place where it stands. -/
theorem descriptorName_of_endsInNull {useId : Bool} {type : TypeDescriptor} (h : type.EndsInNull) :
    descriptorName settings forMember location useId type =
      .error (.unexpectedDescriptor location "null primitive") := by
  cases type with
  | primitive kind =>
    obtain rfl := TypeDescriptor.primitive.inj h
    rfl
  | array leaf dimensions =>
    have hleaf : leaf.EndsInNull := h
    rw [descriptorName, descriptorName_of_endsInNull hleaf]
    rfl
  | typeVariable name upperBound =>
    have hbound : upperBound.EndsInNull := h
    rw [descriptorName, descriptorName_of_endsInNull hbound]
  | declared | intersection => cases h

/-- **Every other value type has a name.** -/
theorem exists_descriptorName {useId : Bool} {type : TypeDescriptor} (h : ¬type.EndsInNull) :
    ∃ name, descriptorName settings forMember location useId type = .ok name := by
  cases type with
  | primitive kind =>
    obtain ⟨name, hname⟩ := exists_primitiveName? fun hnull => h (congrArg _ hnull)
    exact ⟨name, by rw [descriptorName, hname]⟩
  | array leaf dimensions =>
    have hleaf : ¬leaf.EndsInNull := h
    obtain ⟨leafName, hname⟩ := exists_descriptorName hleaf
    exact ⟨leafName ++ arrayPart dimensions, by rw [descriptorName, hname]; rfl⟩
  | declared declaration =>
    rw [descriptorName]
    split
    · exact ⟨_, rfl⟩
    · exact ⟨_, rfl⟩
  | typeVariable name upperBound =>
    have hbound : ¬upperBound.EndsInNull := h
    rw [descriptorName]
    exact exists_descriptorName hbound
  | intersection members => exact ⟨_, rfl⟩

end Interop

end Nomenclator
