import Nomenclator.Proofs.Declaration.Reading
import Nomenclator.Proofs.Settings.Reading

/-!
# Declarations and their written forms

A value and its written form belong together in two ways. The value reads back from it
(`RoundTrip.read_write`). And whatever JSON a value is read from, written by hand perhaps, with
fields left out and unknown ones added, or with arrays in the place of objects, its qualified names
are those that the JSON spells (`RoundTrip.names_agree`): each text in the place of a name has been
parsed as one, at any depth, and no name comes from elsewhere.

Where the names are is said once for values (`Mentions`) and once for JSON (`Spells`). A type has
its own name and those of the types around it. A value type has those of its declaration and of its
parts: the leaf of an array, the bound of a variable, the members of an intersection.
-/

namespace Nomenclator

open Json (Origin asArray? required?_eq_some_iff optional?_of_ne_null exists_part_of_optional?)

/-- The names that are mentioned are those that the texts in the places of names spell. -/
structure NamesAgree (spelled : Json → Prop) (mentioned : QualifiedName → Prop) : Prop where
  /-- What is in the place of a name is a text that can be parsed as one. -/
  name_of_text : ∀ part, spelled part →
    ∃ text name, part = .string text ∧ QualifiedName.parse text = .ok name ∧ mentioned name
  /-- Every name is parsed from a text in such a place. -/
  text_of_name : ∀ name, mentioned name →
    ∃ text, spelled (.string text) ∧ QualifiedName.parse text = .ok name

namespace NamesAgree

variable {spelled spelled' : Json → Prop} {mentioned mentioned' : QualifiedName → Prop}

theorem or (h : NamesAgree spelled mentioned) (h' : NamesAgree spelled' mentioned') :
    NamesAgree (fun part => spelled part ∨ spelled' part)
      (fun name => mentioned name ∨ mentioned' name) where
  name_of_text part hpart := by
    rcases hpart with hpart | hpart
    · obtain ⟨text, name, htext, hparse, hname⟩ := h.name_of_text part hpart
      exact ⟨text, name, htext, hparse, Or.inl hname⟩
    · obtain ⟨text, name, htext, hparse, hname⟩ := h'.name_of_text part hpart
      exact ⟨text, name, htext, hparse, Or.inr hname⟩
  text_of_name name hname := by
    rcases hname with hname | hname
    · obtain ⟨text, hspelled, hparse⟩ := h.text_of_name name hname
      exact ⟨text, Or.inl hspelled, hparse⟩
    · obtain ⟨text, hspelled, hparse⟩ := h'.text_of_name name hname
      exact ⟨text, Or.inr hspelled, hparse⟩

/-- The names of a field that has to be there are spelled in that field. -/
theorem of_required {α : Type} {read? : Json → Option α} {value : α}
    {spells : Json → Json → Prop} {json : Json} {order : List String} {key : String}
    (hagree : ∀ part, read? part = some value → NamesAgree (spells part) mentioned)
    (h : json.required? read? order key = some value) :
    NamesAgree (fun part => ∃ inner, json.field? order key = some inner ∧ spells inner part)
      mentioned := by
  obtain ⟨inner, hinner, hread⟩ := required?_eq_some_iff.mp h
  refine ⟨fun part hpart => ?_, fun name hname => ?_⟩
  · obtain ⟨other, hother, hspells⟩ := hpart
    obtain rfl := Option.some.inj (hinner.symm.trans hother)
    exact (hagree inner hread).name_of_text part hspells
  · obtain ⟨text, hspells, hparse⟩ := (hagree inner hread).text_of_name name hname
    exact ⟨text, ⟨inner, hinner, hspells⟩, hparse⟩

/-- The names of the values in a list are spelled by its items. -/
theorem of_items {α : Type} {read? : Json → Option α} {spells : Json → Json → Prop}
    {mentions : α → QualifiedName → Prop} {items : List Json} {values : List α}
    (hagree : ∀ item value, read? item = some value → NamesAgree (spells item) (mentions value))
    (h : items.mapM read? = some values) :
    NamesAgree (fun part => ∃ item ∈ items, spells item part)
      (fun name => ∃ value ∈ values, mentions value name) where
  name_of_text part hpart := by
    obtain ⟨item, hitem, hspells⟩ := hpart
    obtain ⟨value, hvalue, hread⟩ := exists_value_of_mapM h hitem
    obtain ⟨text, name, htext, hparse, hname⟩ := (hagree item value hread).name_of_text part hspells
    exact ⟨text, name, htext, hparse, value, hvalue, hname⟩
  text_of_name name hname := by
    obtain ⟨value, hvalue, hmentions⟩ := hname
    obtain ⟨item, hitem, hread⟩ := exists_item_of_mapM h hvalue
    obtain ⟨text, hspells, hparse⟩ := (hagree item value hread).text_of_name name hmentions
    exact ⟨text, ⟨item, hitem, hspells⟩, hparse⟩

end NamesAgree

/-- Values are written and read without loss, and their names are validated. -/
structure RoundTrip {α : Type} (write : α → Json) (read? : Json → Option α)
    (spells : Json → Json → Prop) (mentions : α → QualifiedName → Prop) : Prop where
  read_write : ∀ value, read? (write value) = some value
  names_agree : ∀ json value, read? json = some value →
    NamesAgree (spells json) (mentions value)

/-! ### Types -/

namespace TypeDeclaration

variable {origin : Origin} {json : Json} {declaration : TypeDeclaration}

/-- A type mentions its own name and those of the types around it. -/
inductive Mentions : TypeDeclaration → QualifiedName → Prop
  | own (declaration : TypeDeclaration) : Mentions declaration declaration.qualifiedName
  | enclosing {declaration outer : TypeDeclaration} {name : QualifiedName}
      (h : declaration.enclosing? = some outer) (houter : Mentions outer name) :
      Mentions declaration name

/-- The JSON of a type has something in the place of its own name or in that of a type around it. -/
inductive Spells : Json → Json → Prop
  | own {json part : Json}
      (h : json.field? TypeTraits.fieldNames "qualified_name" = some part) : Spells json part
  | enclosing {json outer part : Json}
      (h : json.field? TypeTraits.fieldNames "enclosing" = some outer)
      (houter : Spells outer part) : Spells json part

theorem Spells.ne_null {part : Json} (h : Spells json part) : json ≠ .null := by
  rintro rfl
  cases h <;> contradiction

/-- A type has been read when its traits and the type around it have been. -/
theorem decode?_eq_some_iff :
    decode? origin json = some declaration ↔
      TypeTraits.decode? origin json = some declaration.traits ∧
        json.optional? (decode? origin) TypeTraits.fieldNames "enclosing" =
          some declaration.enclosing? := by
  have hparts (traits : TypeTraits) (enclosing? : Option TypeDeclaration) :
      ofTraits traits enclosing? = declaration ↔
        traits = declaration.traits ∧ enclosing? = declaration.enclosing? := by
    cases enclosing? <;> cases declaration <;>
      simp [ofTraits, TypeDeclaration.traits, TypeDeclaration.enclosing?]
  simp [decode?_eq, Option.bind_eq_some_iff, hparts]

/-- The name of a type has been read from its place. -/
theorem exists_part_of_traits {traits : TypeTraits}
    (h : TypeTraits.decode? origin json = some traits) :
    ∃ part, json.field? TypeTraits.fieldNames "qualified_name" = some part ∧
      QualifiedName.ofJson? part = some traits.qualifiedName := by
  simp only [TypeTraits.decode?, Option.bind_eq_bind, Option.bind_eq_some_iff] at h
  obtain ⟨_, -, qualifiedName, hname, _, -, _, -, _, -, _, -, _, -, _, -, heq⟩ := h
  cases heq
  exact required?_eq_some_iff.mp hname

/-- **The names of a type are those that its JSON spells.** -/
theorem namesAgree (h : decode? origin json = some declaration) :
    NamesAgree (Spells json) declaration.Mentions where
  name_of_text part hpart := by
    induction hpart generalizing declaration with
    | own hown =>
      obtain ⟨part, hpart, hname⟩ := exists_part_of_traits (decode?_eq_some_iff.mp h).1
      obtain rfl := Option.some.inj (hown.symm.trans hpart)
      obtain ⟨text, rfl, hparse⟩ := QualifiedName.ofJson?_eq_some_iff.mp hname
      exact ⟨text, _, rfl, hparse, .own declaration⟩
    | enclosing houter hspells ih =>
      have hread := (decode?_eq_some_iff.mp h).2
      rw [optional?_of_ne_null houter hspells.ne_null] at hread
      obtain ⟨outer, hread, houter⟩ := Option.map_eq_some_iff.mp hread
      obtain ⟨text, name, htext, hparse, hname⟩ := ih hread
      exact ⟨text, name, htext, hparse, .enclosing houter.symm hname⟩
  text_of_name name hname := by
    induction hname generalizing json with
    | own declaration =>
      obtain ⟨part, hpart, hname⟩ := exists_part_of_traits (decode?_eq_some_iff.mp h).1
      obtain ⟨text, rfl, hparse⟩ := QualifiedName.ofJson?_eq_some_iff.mp hname
      exact ⟨text, .own hpart, hparse⟩
    | enclosing houter hmentions ih =>
      have hread := (decode?_eq_some_iff.mp h).2
      rw [houter] at hread
      obtain ⟨outer, houter, hread⟩ := exists_part_of_optional? hread
      obtain ⟨text, hspells, hparse⟩ := ih hread
      exact ⟨text, .enclosing houter hspells, hparse⟩

end TypeDeclaration

/-! ### Value types -/

namespace TypeDescriptor

variable {origin : Origin} {json : Json} {kind : TypeKind} {type : TypeDescriptor}

/-- The value types that a value type is made of. -/
def parts : TypeDescriptor → List TypeDescriptor
  | array leaf _ => [leaf]
  | typeVariable _ upperBound => [upperBound]
  | intersection members => members
  | _ => []

/-- The declaration of a declared type. -/
def declaration? : TypeDescriptor → Option TypeDeclaration
  | declared declaration => some declaration
  | _ => none

/-- The places of the parts of a value type. -/
def placesOfParts (json : Json) : List Json :=
  match kind? .kept json with
  | some .array => (json.field? TypeKind.array.fieldNames "leaf").toList
  | some .typeVariable => (json.field? TypeKind.typeVariable.fieldNames "upper_bound").toList
  | some .intersection =>
    ((json.field? TypeKind.intersection.fieldNames "types").bind asArray?).getD []
  | _ => []

/-- The place of the declaration of a declared type. -/
def placeOfDeclaration? (json : Json) : Option Json :=
  match kind? .kept json with
  | some .declared => json.field? TypeKind.declared.fieldNames "declaration"
  | _ => none

/-- A value type mentions the names of its declaration and of its parts. -/
inductive Mentions : TypeDescriptor → QualifiedName → Prop
  | declaration {type : TypeDescriptor} {declaration : TypeDeclaration} {name : QualifiedName}
      (h : type.declaration? = some declaration) (hname : declaration.Mentions name) :
      Mentions type name
  | part {type part : TypeDescriptor} {name : QualifiedName} (h : part ∈ type.parts)
      (hname : Mentions part name) : Mentions type name

/-- The JSON of a value type has something in the place of a name of its declaration or of its
parts. -/
inductive Spells : Json → Json → Prop
  | declaration {json inner part : Json} (h : placeOfDeclaration? json = some inner)
      (hpart : TypeDeclaration.Spells inner part) : Spells json part
  | part {json inner part : Json} (h : inner ∈ placesOfParts json) (hpart : Spells inner part) :
      Spells json part

/-- A kept kind can be read in any way in which one in its place can. -/
theorem kind?_kept (h : kind? origin json = some kind) : kind? .kept json = some kind := by
  simp only [kind?, Option.bind_eq_bind, Option.bind_eq_some_iff, required?_eq_some_iff] at h ⊢
  obtain ⟨kind', ⟨part, hpart, hkind⟩, hrecord⟩ := h
  refine ⟨kind', ⟨part, hpart, ?_⟩, hrecord⟩
  rw [TypeKind.decode?.eq_def] at hkind ⊢
  split at hkind
  · exact hkind
  · split at hkind
    · exact hkind
    · cases hkind
  · cases hkind

/-- The parts and the declaration of a value type have been read from their places. -/
theorem read_places (h : decode? origin json = some type) :
    (placesOfParts json).mapM (decode? .kept) = some type.parts ∧
      (placeOfDeclaration? json).map (TypeDeclaration.decode? .kept) =
        type.declaration?.map some := by
  obtain ⟨kind, hkind, h⟩ := decode?_eq_some_iff.mp h
  rw [placesOfParts, placeOfDeclaration?, kind?_kept hkind]
  cases kind with
  | primitive =>
    obtain ⟨kind, -, rfl⟩ := Option.map_eq_some_iff.mp h
    exact ⟨rfl, rfl⟩
  | array =>
    simp only [decodeAs?, Option.bind_eq_bind, Option.bind_eq_some_iff] at h
    obtain ⟨leaf, hleaf, dimensions, -, heq⟩ := h
    cases heq
    obtain ⟨inner, hinner, hleaf⟩ := required?_eq_some_iff.mp hleaf
    simp [parts, declaration?, hinner, hleaf]
  | declared =>
    obtain ⟨declaration, hdeclaration, rfl⟩ := Option.map_eq_some_iff.mp h
    obtain ⟨inner, hinner, hdeclaration⟩ := required?_eq_some_iff.mp hdeclaration
    simp [parts, declaration?, hinner, hdeclaration]
  | typeVariable =>
    simp only [decodeAs?, Option.bind_eq_bind, Option.bind_eq_some_iff] at h
    obtain ⟨name, -, upperBound, hbound, heq⟩ := h
    cases heq
    obtain ⟨inner, hinner, hbound⟩ := required?_eq_some_iff.mp hbound
    simp [parts, declaration?, hinner, hbound]
  | intersection =>
    obtain ⟨members, hmembers, rfl⟩ := Option.map_eq_some_iff.mp h
    obtain ⟨inner, hinner, hmembers⟩ := required?_eq_some_iff.mp hmembers
    obtain ⟨items, hitems, hmembers⟩ := Option.bind_eq_some_iff.mp hmembers
    simp [parts, declaration?, hinner, hitems, hmembers]

/-- **The names of a value type are those that its JSON spells.** -/
theorem namesAgree (h : decode? origin json = some type) :
    NamesAgree (Spells json) type.Mentions where
  name_of_text part hpart := by
    induction hpart generalizing origin type with
    | declaration hplace hspells =>
      have hread := (read_places h).2
      rw [hplace, Option.map_some] at hread
      obtain ⟨declaration, hdeclaration, hread⟩ := Option.map_eq_some_iff.mp hread.symm
      obtain ⟨text, name, htext, hparse, hname⟩ :=
        (TypeDeclaration.namesAgree hread.symm).name_of_text _ hspells
      exact ⟨text, name, htext, hparse, .declaration hdeclaration hname⟩
    | part hplace hspells ih =>
      obtain ⟨part, hpart, hread⟩ := exists_value_of_mapM (read_places h).1 hplace
      obtain ⟨text, name, htext, hparse, hname⟩ := ih hread
      exact ⟨text, name, htext, hparse, .part hpart hname⟩
  text_of_name name hname := by
    induction hname generalizing origin json with
    | declaration hdeclaration hmentions =>
      have hread := (read_places h).2
      rw [hdeclaration, Option.map_some] at hread
      obtain ⟨inner, hplace, hread⟩ := Option.map_eq_some_iff.mp hread
      obtain ⟨text, hspells, hparse⟩ :=
        (TypeDeclaration.namesAgree hread).text_of_name _ hmentions
      exact ⟨text, .declaration hplace hspells, hparse⟩
    | part hpart hmentions ih =>
      obtain ⟨inner, hplace, hread⟩ := exists_item_of_mapM (read_places h).1 hpart
      obtain ⟨text, hspells, hparse⟩ := ih hread
      exact ⟨text, .part hplace hspells, hparse⟩

end TypeDescriptor

/-! ### Members -/

namespace Variable

/-- A parameter mentions the names of its type. -/
def Mentions (parameter : Variable) (name : QualifiedName) : Prop :=
  parameter.type.Mentions name

/-- The JSON of a parameter has something in the place of a name of its type. -/
def Spells (json part : Json) : Prop :=
  ∃ inner, json.field? fieldNames "type_descriptor" = some inner ∧
    TypeDescriptor.Spells inner part

theorem namesAgree {json : Json} {parameter : Variable} (h : ofJson? json = some parameter) :
    NamesAgree (Spells json) parameter.Mentions := by
  simp only [ofJson?, Option.bind_eq_bind, Option.bind_eq_some_iff] at h
  obtain ⟨_, -, name, -, type, htype, heq⟩ := h
  cases heq
  exact NamesAgree.of_required (fun _ => TypeDescriptor.namesAgree) htype

/-- Parameters have been read from the items of an array. -/
theorem exists_items_of_listOfJson? {json : Json} {parameters : List Variable}
    (h : listOfJson? json = some parameters) :
    ∃ items, json = .array items ∧ items.mapM ofJson? = some parameters := by
  cases json with
  | array items => exact ⟨items, rfl, h⟩
  | _ => cases h

end Variable

/-- A field mentions the names of its type declaration. -/
def FieldDescriptor.Mentions (field : FieldDescriptor) (name : QualifiedName) : Prop :=
  field.enclosing.Mentions name

/-- The JSON of a field has something in the place of a name of the type around it. -/
def FieldDescriptor.Spells (json part : Json) : Prop :=
  ∃ inner, json.field? fieldNames "enclosing" = some inner ∧ TypeDeclaration.Spells inner part

theorem FieldDescriptor.namesAgree {json : Json} {field : FieldDescriptor}
    (h : ofJson? json = some field) : NamesAgree (Spells json) field.Mentions := by
  simp only [ofJson?, Option.bind_eq_bind, Option.bind_eq_some_iff] at h
  obtain ⟨_, -, name, -, enclosing, henclosing, _, -, _, -, heq⟩ := h
  cases heq
  exact NamesAgree.of_required (fun _ => TypeDeclaration.namesAgree) henclosing

namespace MethodDescriptor

/-- A method mentions the names of the type around it and those of its parameters. -/
def Mentions (method : MethodDescriptor) (name : QualifiedName) : Prop :=
  method.enclosing.Mentions name ∨ ∃ parameter ∈ method.parameters, parameter.Mentions name

/-- The JSON of a method has something in the place of a name of the type around it or of a
parameter. -/
def Spells (json part : Json) : Prop :=
  (∃ inner, json.field? fieldNames "enclosing" = some inner ∧
      TypeDeclaration.Spells inner part) ∨
    ∃ items, json.field? fieldNames "parameters" = some (.array items) ∧
      ∃ item ∈ items, Variable.Spells item part

theorem namesAgree {json : Json} {method : MethodDescriptor} (h : ofJson? json = some method) :
    NamesAgree (Spells json) method.Mentions := by
  simp only [ofJson?, Option.bind_eq_bind, Option.bind_eq_some_iff] at h
  obtain ⟨_, -, name, -, enclosing, henclosing, _, -, _, -, _, -, _, -, parameters, hparameters,
    heq⟩ := h
  cases heq
  refine .or (.of_required (fun _ => TypeDeclaration.namesAgree) henclosing) ?_
  rw [Json.defaulted?] at hparameters
  rcases hfield : json.field? fieldNames "parameters" with _ | part
  · -- without the field there are no parameters
    rw [hfield] at hparameters
    cases hparameters
    exact ⟨by simp, by simp⟩
  · rw [hfield] at hparameters
    obtain ⟨items, rfl, hitems⟩ := Variable.exists_items_of_listOfJson? hparameters
    have hagree := NamesAgree.of_items (fun _ _ => Variable.namesAgree) hitems
    exact ⟨by simpa using hagree.name_of_text, by simpa using hagree.text_of_name⟩

end MethodDescriptor

/-- **Declarations and settings read back from their written forms**, and the qualified names of a
declaration that is read, however deep they are, are those that the JSON spells. -/
theorem written_forms_round_trip :
    RoundTrip TypeDeclaration.toJson TypeDeclaration.ofJson? TypeDeclaration.Spells
        TypeDeclaration.Mentions ∧
      RoundTrip TypeDescriptor.toJson TypeDescriptor.ofJson? TypeDescriptor.Spells
        TypeDescriptor.Mentions ∧
      RoundTrip Variable.toJson Variable.ofJson? Variable.Spells Variable.Mentions ∧
      RoundTrip FieldDescriptor.toJson FieldDescriptor.ofJson? FieldDescriptor.Spells
        FieldDescriptor.Mentions ∧
      RoundTrip MethodDescriptor.toJson MethodDescriptor.ofJson? MethodDescriptor.Spells
        MethodDescriptor.Mentions ∧
      ∀ settings : Settings, Settings.ofJson? settings.toJson = some settings :=
  ⟨⟨TypeDeclaration.ofJson?_toJson, fun _ _ => TypeDeclaration.namesAgree⟩,
    ⟨TypeDescriptor.ofJson?_toJson, fun _ _ => TypeDescriptor.namesAgree⟩,
    ⟨Variable.ofJson?_toJson, fun _ _ => Variable.namesAgree⟩,
    ⟨FieldDescriptor.ofJson?_toJson, fun _ _ => FieldDescriptor.namesAgree⟩,
    ⟨MethodDescriptor.ofJson?_toJson, fun _ _ => MethodDescriptor.namesAgree⟩,
    Settings.ofJson?_toJson⟩

/-- A method may have a field that is not known and lack those that may be left out, and its parts
may be arrays, with words as objects and a kept kind as a number. The name of an array's leaf in one
of its parameters is validated like any other. -/
theorem written_forms_round_trip_layers :
    let canvas : Json := .array
      [.string "gfx.Canvas", .string "Canvas", .null, .null, .string "public"]
    let layer (name : String) : Json := .object
      [("qualified_name", .string name), ("simple_source_name", .string "Layer"),
        ("enclosing", .null), ("visibility", .object [("private", .object [])])]
    let layers (name : String) : Json := .array
      [.string "array", .array [.ofNat 2, layer name], .ofNat 18446744073709551615]
    let draw (name : String) : Json := .object
      [("name", .string "draw"), ("since", .ofNat 3), ("enclosing", canvas),
        ("visibility", .object [("protected", .null)]),
        ("parameters", .array
          [.object [("name", .string "layers"), ("type_descriptor", layers name)]])]
    (∃ method, MethodDescriptor.ofJson? (draw "gfx.Layer") = some method ∧
      MethodDescriptor.ofJson? method.toJson = some method) ∧
      MethodDescriptor.ofJson? (draw "gfx..Layer") = none := by
  intro canvas layer layers draw
  obtain ⟨-, -, -, -, hmethod, -⟩ := written_forms_round_trip
  constructor
  · have hreads : (MethodDescriptor.ofJson? (draw "gfx.Layer")).isSome = true := by
      decide +kernel
    obtain ⟨method, hread⟩ := Option.isSome_iff_exists.mp hreads
    exact ⟨method, hread, hmethod.read_write method⟩
  · rw [Option.eq_none_iff_forall_ne_some]
    intro method hread
    have hspells : MethodDescriptor.Spells (draw "gfx..Layer") (.string "gfx..Layer") := by
      refine Or.inr ⟨_, rfl, _, List.mem_singleton_self _, _, rfl, ?_⟩
      exact .part (List.mem_singleton_self _) (.declaration rfl (.own rfl))
    obtain ⟨text, name, htext, hparse, -⟩ :=
      (hmethod.names_agree _ method hread).name_of_text _ hspells
    obtain rfl := Json.string.inj htext
    have hrejects : (QualifiedName.parse "gfx..Layer").toOption = none := by decide
    rw [hparse] at hrejects
    cases hrejects

end Nomenclator
