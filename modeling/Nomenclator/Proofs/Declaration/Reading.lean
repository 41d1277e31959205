import Nomenclator.Declaration.Encoding
import Nomenclator.Proofs.Json.Reading

/-!
# Declarations read back

Every declaration reads back from its written form, however deep it is nested.

The readers of types and of value types descend into their parts, and they look a part up together
with the proof that it is smaller. The equations `TypeDeclaration.decode?_eq` and
`TypeDescriptor.decode?_eq` state what they read without it, field by field, and everything else
follows from them.
-/

namespace Nomenclator

open Json (Origin asString? asWord? asArray? required? defaulted? optional? orNull?
  orNull?_ofOption required?_eq_some_iff)

variable {origin : Origin}

/-! ### Words -/

@[simp]
theorem Visibility.decode?_word (visibility : Visibility) :
    Visibility.decode? origin (.string visibility.word) = some visibility := by
  cases visibility <;> rfl

@[simp]
theorem PrimitiveKind.decode?_word (kind : PrimitiveKind) :
    PrimitiveKind.decode? (.string kind.word) = some kind := by
  cases kind <;> rfl

/-- What reads as a qualified name is a text that is one. -/
theorem QualifiedName.ofJson?_eq_some_iff {json : Json} {name : QualifiedName} :
    QualifiedName.ofJson? json = some name ↔
      ∃ text, json = .string text ∧ QualifiedName.parse text = .ok name := by
  cases json with
  | string text =>
    cases hparse : QualifiedName.parse text <;>
      simp [QualifiedName.ofJson?, asString?, hparse, Except.toOption]
  | _ => simp [QualifiedName.ofJson?, asString?]

@[simp]
theorem QualifiedName.ofJson?_toJson (name : QualifiedName) :
    QualifiedName.ofJson? name.toJson = some name :=
  ofJson?_eq_some_iff.mpr ⟨name.spelling, rfl, name.parse_spelling⟩

/-! ### Types -/

@[simp]
theorem TypeTraits.decode?_toJson (traits : TypeTraits) (enclosing : Json) :
    TypeTraits.decode? origin (traits.toJson enclosing) = some traits := by
  have hrecord : (traits.toJson enclosing).isRecord fieldNames = true := rfl
  rw [TypeTraits.decode?, hrecord]
  simp [TypeTraits.toJson, required?, defaulted?, optional?, asString?, Json.asBool?]

namespace TypeDeclaration

/-- The type with the given traits in the type around it, if there is one. -/
def ofTraits (traits : TypeTraits) : Option TypeDeclaration → TypeDeclaration
  | none => topLevel traits
  | some enclosing => nested traits enclosing

/-- A type is read from its traits and from the type around it, if there is one. -/
theorem decode?_eq (origin : Origin) (json : Json) :
    decode? origin json = do
      let traits ← TypeTraits.decode? origin json
      let enclosing? ← json.optional? (decode? origin) TypeTraits.fieldNames "enclosing"
      return ofTraits traits enclosing? := by
  rw [decode?]
  cases TypeTraits.decode? origin json with
  | none => rfl
  | some traits =>
    unfold Json.optional? Json.field?
    rcases json.part? TypeTraits.fieldNames "enclosing" with _ | ⟨part, hpart⟩
    · cases json <;> rfl
    · cases part <;> simp [ofTraits, orNull?, Option.bind_map]

theorem toJson_ne_null (declaration : TypeDeclaration) : declaration.toJson ≠ .null := by
  cases declaration <;> exact Json.noConfusion

/-- **Every type reads back from its written form**, in its place and when it has been kept. -/
@[simp]
theorem decode?_toJson (declaration : TypeDeclaration) :
    decode? origin declaration.toJson = some declaration := by
  -- the type around it is written as an option
  have hread (traits : TypeTraits) (enclosing? : Option TypeDeclaration)
      (henclosing : ∀ enclosing ∈ enclosing?,
        decode? origin enclosing.toJson = some enclosing) :
      decode? origin (traits.toJson (.ofOption toJson enclosing?)) =
        some (ofTraits traits enclosing?) := by
    have hpart : orNull? (decode? origin) (.ofOption toJson enclosing?) = some enclosing? :=
      orNull?_ofOption henclosing toJson_ne_null
    rw [decode?_eq, TypeTraits.decode?_toJson]
    simp [TypeTraits.toJson, optional?, hpart]
  induction declaration with
  | topLevel traits => exact hread traits none (by simp)
  | nested traits enclosing ih => exact hread traits (some enclosing) (by simpa using ih)

@[simp]
theorem ofJson?_toJson (declaration : TypeDeclaration) :
    ofJson? declaration.toJson = some declaration :=
  declaration.decode?_toJson

end TypeDeclaration

/-! ### Value types -/

namespace TypeDescriptor

/-- Reads a list of value types that have been kept. -/
def decodeList? (json : Json) : Option (List TypeDescriptor) :=
  json.asArray?.bind (·.mapM (decode? .kept))

/-- Reads a value type of the given kind. -/
def decodeAs? (json : Json) (kind : TypeKind) : Option TypeDescriptor :=
  match kind with
  | .primitive => (json.required? PrimitiveKind.decode? kind.fieldNames "primitive").map primitive
  | .array => do
    let leaf ← json.required? (decode? .kept) kind.fieldNames "leaf"
    let dimensions ← json.required? asWord? kind.fieldNames "dimensions"
    return array leaf dimensions
  | .declared =>
    (json.required? (TypeDeclaration.decode? .kept) kind.fieldNames "declaration").map declared
  | .typeVariable => do
    let name ← json.required? asString? kind.fieldNames "name"
    let upperBound ← json.required? (decode? .kept) kind.fieldNames "upper_bound"
    return typeVariable name upperBound
  | .intersection => (json.required? decodeList? kind.fieldNames "types").map intersection

/-- A value type is read by its kind. -/
theorem decode?_eq (origin : Origin) (json : Json) :
    decode? origin json = (kind? origin json).bind (decodeAs? json) := by
  rw [decode?]
  refine congrArg _ (funext fun kind => ?_)
  cases kind with
  | primitive => simp [decodeAs?, Option.map_eq_bind]
  | array =>
    rw [decodeAs?]
    unfold required? Json.field?
    rcases json.part? TypeKind.array.fieldNames "leaf" with _ | ⟨part, hpart⟩ <;> rfl
  | declared => simp [decodeAs?, Option.map_eq_bind]
  | typeVariable =>
    rw [decodeAs?]
    unfold required? Json.field?
    rcases json.part? TypeKind.typeVariable.fieldNames "upper_bound" with _ | ⟨part, hpart⟩ <;> rfl
  | intersection =>
    rw [decodeAs?]
    unfold required? Json.field? decodeList?
    rcases json.part? TypeKind.intersection.fieldNames "types" with _ | ⟨part, hpart⟩
    · rfl
    · cases part with
      | array items =>
        have hitems : (items.attach.mapM fun item => decode? .kept item.1) =
            items.mapM (decode? .kept) := by
          rw [List.mapM_subtype fun _ _ => rfl, List.unattach_attach]
        simp [hitems, asArray?, Option.map_eq_bind]
      | _ => rfl

theorem allToJson_eq_map (types : List TypeDescriptor) : allToJson types = types.map toJson := by
  induction types with
  | nil => rfl
  | cons first rest ih => rw [allToJson, ih, List.map_cons]

theorem decode?_eq_some_iff {json : Json} {type : TypeDescriptor} :
    decode? origin json = some type ↔
      ∃ kind, kind? origin json = some kind ∧ decodeAs? json kind = some type := by
  rw [decode?_eq, Option.bind_eq_some_iff]

/-- **Every value type reads back from its written form**, in its place and when it has been
kept. -/
@[simp]
theorem decode?_toJson {origin : Origin} (type : TypeDescriptor) :
    decode? origin type.toJson = some type := by
  rw [decode?_eq_some_iff]
  cases type with
  | primitive kind =>
    refine ⟨.primitive, rfl, ?_⟩
    simp [decodeAs?, toJson, required?]
  | array leaf dimensions =>
    refine ⟨.array, rfl, ?_⟩
    simp [decodeAs?, toJson, required?, decode?_toJson leaf]
  | declared declaration =>
    refine ⟨.declared, rfl, ?_⟩
    simp [decodeAs?, toJson, required?]
  | typeVariable name upperBound =>
    refine ⟨.typeVariable, rfl, ?_⟩
    simp [decodeAs?, toJson, required?, asString?, decode?_toJson upperBound]
  | intersection members =>
    have hmembers : (members.map toJson).mapM (decode? .kept) = some members :=
      mapM_map_eq_some fun member _ => decode?_toJson member
    refine ⟨.intersection, rfl, ?_⟩
    simp [decodeAs?, toJson, required?, decodeList?, asArray?, allToJson_eq_map, hmembers]

@[simp]
theorem ofJson?_toJson (type : TypeDescriptor) : ofJson? type.toJson = some type :=
  type.decode?_toJson

end TypeDescriptor

/-! ### Members -/

@[simp]
theorem Variable.ofJson?_toJson (parameter : Variable) :
    Variable.ofJson? parameter.toJson = some parameter := by
  have hrecord : parameter.toJson.isRecord fieldNames = true := rfl
  rw [Variable.ofJson?, hrecord]
  simp [Variable.toJson, required?, asString?]

@[simp]
theorem FieldDescriptor.ofJson?_toJson (field : FieldDescriptor) :
    FieldDescriptor.ofJson? field.toJson = some field := by
  have hrecord : field.toJson.isRecord fieldNames = true := rfl
  rw [FieldDescriptor.ofJson?, hrecord]
  simp [FieldDescriptor.toJson, required?, defaulted?, asString?, Json.asBool?]

@[simp]
theorem MethodDescriptor.ofJson?_toJson (method : MethodDescriptor) :
    MethodDescriptor.ofJson? method.toJson = some method := by
  have hrecord : method.toJson.isRecord fieldNames = true := rfl
  have hparameters : Variable.listOfJson? (.array (method.parameters.map Variable.toJson)) =
      some method.parameters :=
    mapM_map_eq_some fun parameter _ => parameter.ofJson?_toJson
  rw [MethodDescriptor.ofJson?, hrecord]
  simp [MethodDescriptor.toJson, required?, defaulted?, asString?, Json.asBool?, hparameters]

end Nomenclator
