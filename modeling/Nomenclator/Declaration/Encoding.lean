import Nomenclator.Declaration
import Nomenclator.Json

/-!
# Declarations as JSON

Every declaration has one written form, an object in which all its fields are present. Reading is
more generous: the fields may also be given as an array, unknown fields of an object are ignored, an
optional field may be missing or `null`, and a flag may be missing. A qualified name is written as
its spelling and is validated when it is read, at any depth.

A value type says what kind it is, in an object at any place and in an array at the first one. Its
other parts are read when the kind is known, so they have been kept until then.
-/

namespace Nomenclator

/-! ### Words -/

/-- The word for a visibility. -/
def Visibility.word : Visibility → String
  | .publicAccess => "public"
  | .protectedAccess => "protected"
  | .packageAccess => "package_private"
  | .privateAccess => "private"

/-- All visibilities. -/
def Visibility.all : List Visibility :=
  [.publicAccess, .protectedAccess, .packageAccess, .privateAccess]

/-- The visibility that a word stands for. -/
def Visibility.ofWord? (word : String) : Option Visibility :=
  all.find? (·.word == word)

/-- The word for a primitive type. -/
def PrimitiveKind.word : PrimitiveKind → String
  | .void => "void"
  | .boolean => "boolean"
  | .byte => "byte"
  | .short => "short"
  | .int => "int"
  | .long => "long"
  | .char => "char"
  | .float => "float"
  | .double => "double"
  | .null => "null"

/-- All primitive types. -/
def PrimitiveKind.all : List PrimitiveKind :=
  [.void, .boolean, .byte, .short, .int, .long, .char, .float, .double, .null]

/-- The primitive type that a word stands for. -/
def PrimitiveKind.ofWord? (word : String) : Option PrimitiveKind :=
  all.find? (·.word == word)

/-- The kinds of value types. -/
inductive TypeKind where
  | primitive
  | array
  | declared
  | typeVariable
  | intersection
deriving DecidableEq, Repr

/-- The word for a kind. -/
def TypeKind.word : TypeKind → String
  | .primitive => "primitive"
  | .array => "array"
  | .declared => "declared"
  | .typeVariable => "type_variable"
  | .intersection => "intersection"

/-- All kinds. -/
def TypeKind.all : List TypeKind :=
  [.primitive, .array, .declared, .typeVariable, .intersection]

/-! ### Fields -/

/-- The fields of a type declaration, in order. -/
def TypeTraits.fieldNames : List String :=
  ["qualified_name", "simple_source_name", "package_name", "enclosing", "visibility", "is_local",
    "interop_name", "interop_name_prefix"]

/-- The fields of a value type, in order. -/
def TypeKind.fieldNames : TypeKind → List String
  | .primitive => ["kind", "primitive"]
  | .array => ["kind", "leaf", "dimensions"]
  | .declared => ["kind", "declaration"]
  | .typeVariable => ["kind", "name", "upper_bound"]
  | .intersection => ["kind", "types"]

/-- The fields of a parameter, in order. -/
def Variable.fieldNames : List String :=
  ["name", "type_descriptor"]

/-- The fields of a field, in order. -/
def FieldDescriptor.fieldNames : List String :=
  ["name", "enclosing", "visibility", "is_static"]

/-- The fields of a method, in order. -/
def MethodDescriptor.fieldNames : List String :=
  ["name", "enclosing", "visibility", "is_constructor", "is_interop_override", "interop_selector",
    "parameters"]

/-! ### Writing -/

/-- The written form of a qualified name. -/
def QualifiedName.toJson (name : QualifiedName) : Json :=
  .string name.spelling

/-- The written form of a type with the given traits and the given enclosing type. -/
def TypeTraits.toJson (traits : TypeTraits) (enclosing : Json) : Json :=
  .object
    [("qualified_name", traits.qualifiedName.toJson),
     ("simple_source_name", .string traits.simpleSourceName),
     ("package_name", .ofOption .string traits.package?),
     ("enclosing", enclosing),
     ("visibility", .string traits.visibility.word),
     ("is_local", .bool traits.isLocal),
     ("interop_name", .ofOption .string traits.interopName?),
     ("interop_name_prefix", .ofOption .string traits.interopNamePrefix?)]

/-- The written form of a type declaration. -/
def TypeDeclaration.toJson : TypeDeclaration → Json
  | .topLevel traits => traits.toJson .null
  | .nested traits enclosing => traits.toJson enclosing.toJson

mutual

/-- The written form of a value type, tagged by its kind. -/
def TypeDescriptor.toJson : TypeDescriptor → Json
  | .primitive kind =>
    .object [("kind", .string TypeKind.primitive.word), ("primitive", .string kind.word)]
  | .array leaf dimensions =>
    .object [("kind", .string TypeKind.array.word), ("leaf", leaf.toJson),
      ("dimensions", .ofNat dimensions.toNat)]
  | .declared declaration =>
    .object [("kind", .string TypeKind.declared.word), ("declaration", declaration.toJson)]
  | .typeVariable name upperBound =>
    .object [("kind", .string TypeKind.typeVariable.word), ("name", .string name),
      ("upper_bound", upperBound.toJson)]
  | .intersection members =>
    .object [("kind", .string TypeKind.intersection.word),
      ("types", .array (TypeDescriptor.allToJson members))]

/-- The written forms of several value types. -/
def TypeDescriptor.allToJson : List TypeDescriptor → List Json
  | [] => []
  | first :: rest => first.toJson :: TypeDescriptor.allToJson rest

end

/-- The written form of a parameter. -/
def Variable.toJson (parameter : Variable) : Json :=
  .object [("name", .string parameter.name), ("type_descriptor", parameter.type.toJson)]

/-- The written form of a field. -/
def FieldDescriptor.toJson (field : FieldDescriptor) : Json :=
  .object
    [("name", .string field.name),
     ("enclosing", field.enclosing.toJson),
     ("visibility", .string field.visibility.word),
     ("is_static", .bool field.isStatic)]

/-- The written form of a method. -/
def MethodDescriptor.toJson (method : MethodDescriptor) : Json :=
  .object
    [("name", .string method.name),
     ("enclosing", method.enclosing.toJson),
     ("visibility", .string method.visibility.word),
     ("is_constructor", .bool method.isConstructor),
     ("is_interop_override", .bool method.isInteropOverride),
     ("interop_selector", .ofOption .string method.interopSelector?),
     ("parameters", .array (method.parameters.map Variable.toJson))]

/-! ### Reading -/

/-- Reads a qualified name. -/
def QualifiedName.ofJson? (json : Json) : Option QualifiedName := do
  let text ← json.asString?
  (QualifiedName.parse text).toOption

/-- Reads a visibility. -/
def Visibility.decode? (origin : Json.Origin) (json : Json) : Option Visibility :=
  (json.asVariant? origin).bind Visibility.ofWord?

/-- Reads a primitive type, which is a part of a value type and has been kept. -/
def PrimitiveKind.decode? (json : Json) : Option PrimitiveKind :=
  (json.asVariant? .kept).bind PrimitiveKind.ofWord?

/-- Reads a kind, which is a word, or also its number if it has been kept. -/
def TypeKind.decode? (origin : Json.Origin) : Json → Option TypeKind
  | .string word => all.find? (·.word == word)
  | .number (.ofNat n) 0 => if origin = .kept then all[n]? else none
  | _ => none

/-- Reads the traits of a type. -/
def TypeTraits.decode? (origin : Json.Origin) (json : Json) : Option TypeTraits := do
  guard (json.isRecord fieldNames)
  let qualifiedName ← json.required? QualifiedName.ofJson? fieldNames "qualified_name"
  let simpleSourceName ← json.required? Json.asString? fieldNames "simple_source_name"
  let package? ← json.optional? Json.asString? fieldNames "package_name"
  let visibility ← json.required? (Visibility.decode? origin) fieldNames "visibility"
  let isLocal ← json.defaulted? Json.asBool? false fieldNames "is_local"
  let interopName? ←
    json.defaulted? (Json.orNull? Json.asString?) none fieldNames "interop_name"
  let interopNamePrefix? ←
    json.defaulted? (Json.orNull? Json.asString?) none fieldNames "interop_name_prefix"
  return { qualifiedName, simpleSourceName, package?, visibility, isLocal, interopName?,
           interopNamePrefix? }

/-- Reads a type declaration, which may have been kept. -/
def TypeDeclaration.decode? (origin : Json.Origin) (json : Json) : Option TypeDeclaration := do
  let traits ← TypeTraits.decode? origin json
  match json.part? TypeTraits.fieldNames "enclosing" with
  | none => if json.isObject then some (.topLevel traits) else none
  | some ⟨.null, _⟩ => return .topLevel traits
  | some ⟨part, _⟩ =>
    let enclosing ← TypeDeclaration.decode? origin part
    return .nested traits enclosing
termination_by sizeOf json

/-- Reads a type declaration. -/
def TypeDeclaration.ofJson? (json : Json) : Option TypeDeclaration :=
  TypeDeclaration.decode? .direct json

/-- The kind of a value type, which has the form of a record with the fields of its kind. -/
def TypeDescriptor.kind? (origin : Json.Origin) (json : Json) : Option TypeKind := do
  let kind ← json.required? (TypeKind.decode? origin) ["kind"] "kind"
  guard (json.isRecord kind.fieldNames)
  return kind

/-- Reads a value type, which may have been kept itself. -/
def TypeDescriptor.decode? (origin : Json.Origin) (json : Json) : Option TypeDescriptor := do
  match ← TypeDescriptor.kind? origin json with
  | .primitive =>
    return .primitive
      (← json.required? PrimitiveKind.decode? TypeKind.primitive.fieldNames "primitive")
  | .array =>
    let ⟨part, _⟩ ← json.part? TypeKind.array.fieldNames "leaf"
    let leaf ← TypeDescriptor.decode? .kept part
    let dimensions ← json.required? Json.asWord? TypeKind.array.fieldNames "dimensions"
    return .array leaf dimensions
  | .declared =>
    return .declared (← json.required? (TypeDeclaration.decode? .kept)
      TypeKind.declared.fieldNames "declaration")
  | .typeVariable =>
    let name ← json.required? Json.asString? TypeKind.typeVariable.fieldNames "name"
    let ⟨part, _⟩ ← json.part? TypeKind.typeVariable.fieldNames "upper_bound"
    return .typeVariable name (← TypeDescriptor.decode? .kept part)
  | .intersection =>
    match json.part? TypeKind.intersection.fieldNames "types" with
    | some ⟨.array items, _hitems⟩ =>
      let members ← items.attach.mapM fun ⟨item, _hitem⟩ => TypeDescriptor.decode? .kept item
      return .intersection members
    | _ => none
termination_by sizeOf json
decreasing_by
  · assumption
  · assumption
  · have := List.sizeOf_lt_of_mem _hitem
    simp only [Json.array.sizeOf_spec] at _hitems
    omega

/-- Reads a value type. -/
def TypeDescriptor.ofJson? (json : Json) : Option TypeDescriptor :=
  TypeDescriptor.decode? .direct json

/-- Reads a parameter. -/
def Variable.ofJson? (json : Json) : Option Variable := do
  guard (json.isRecord fieldNames)
  let name ← json.required? Json.asString? fieldNames "name"
  let type ← json.required? TypeDescriptor.ofJson? fieldNames "type_descriptor"
  return { name, type }

/-- Reads a field. -/
def FieldDescriptor.ofJson? (json : Json) : Option FieldDescriptor := do
  guard (json.isRecord fieldNames)
  let name ← json.required? Json.asString? fieldNames "name"
  let enclosing ← json.required? TypeDeclaration.ofJson? fieldNames "enclosing"
  let visibility ← json.required? (Visibility.decode? .direct) fieldNames "visibility"
  let isStatic ← json.defaulted? Json.asBool? false fieldNames "is_static"
  return { name, enclosing, visibility, isStatic }

/-- Reads the parameters of a method. -/
def Variable.listOfJson? (json : Json) : Option (List Variable) := do
  let items ← json.asArray?
  items.mapM Variable.ofJson?

/-- Reads a method. -/
def MethodDescriptor.ofJson? (json : Json) : Option MethodDescriptor := do
  guard (json.isRecord fieldNames)
  let name ← json.required? Json.asString? fieldNames "name"
  let enclosing ← json.required? TypeDeclaration.ofJson? fieldNames "enclosing"
  let visibility ← json.required? (Visibility.decode? .direct) fieldNames "visibility"
  let isConstructor ← json.defaulted? Json.asBool? false fieldNames "is_constructor"
  let isInteropOverride ← json.defaulted? Json.asBool? false fieldNames "is_interop_override"
  let interopSelector? ←
    json.defaulted? (Json.orNull? Json.asString?) none fieldNames "interop_selector"
  let parameters ← json.defaulted? Variable.listOfJson? [] fieldNames "parameters"
  return { name, enclosing, visibility, isConstructor, isInteropOverride, interopSelector?,
           parameters }

end Nomenclator
