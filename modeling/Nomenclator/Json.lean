/-!
# JSON values

Values as they are exchanged with other programs. An object is a list of named values. A number is
an integer times a power of ten with an exponent of zero or less, so an integer without a fraction
has the exponent zero.

A record is read from an object or from an array. An object has each of the fields at most once, and
further ones are ignored. An array has the fields in their order, and may end before the last one.
A word of a fixed list is a text, or an object with nothing under that word.

A value that says what kind of thing it is can only be read when it has been looked through, so its
parts are kept until then. A kept value is read a little more generously than one in its place
(`Origin`).
-/

namespace Nomenclator

/-- A JSON value. -/
inductive Json where
  | null
  | bool (value : Bool)
  /-- The number `mantissa / 10 ^ scale`. -/
  | number (mantissa : Int) (scale : Nat)
  | string (text : String)
  | array (items : List Json)
  | object (fields : List (String × Json))
deriving Inhabited

namespace Json

/-- The number of a natural number. -/
def ofNat (n : Nat) : Json :=
  number n 0

/-- A value or `null`. -/
def ofOption {α : Type} (encode : α → Json) : Option α → Json
  | some value => encode value
  | none => null

/-! ### Reading -/

/-- Where a value is read from. -/
inductive Origin where
  /-- The value is read in its place. -/
  | direct
  /-- The value has been kept until the kind of the value around it was known. -/
  | kept
deriving DecidableEq, Repr

/-- Whether a value has the form of a record with the given fields. -/
def isRecord (order : List String) : Json → Bool
  | object fields => order.all fun name => (fields.map Prod.fst).count name ≤ 1
  | array items => items.length ≤ order.length
  | _ => false

/-- Whether a value is an object. -/
def isObject : Json → Bool
  | object _ => true
  | _ => false

/-- The value of a field of a record, as a part of the record. -/
def part? (json : Json) (order : List String) (name : String) :
    Option { part : Json // sizeOf part < sizeOf json } :=
  match json with
  | object fields =>
    match h : fields.find? (·.1 == name) with
    | some field => some ⟨field.2, by
        have hmem := List.sizeOf_lt_of_mem (List.mem_of_find?_eq_some h)
        have hpair : sizeOf field = 1 + sizeOf field.1 + sizeOf field.2 := by
          cases field
          rfl
        simp only [object.sizeOf_spec]
        omega⟩
    | none => none
  | array items =>
    match h : items[order.idxOf name]? with
    | some item => some ⟨item, by
        have hmem := List.sizeOf_lt_of_mem (List.mem_of_getElem? h)
        simp only [array.sizeOf_spec]
        omega⟩
    | none => none
  | _ => none

/-- The value of a field of a record. -/
def field? (json : Json) (order : List String) (name : String) : Option Json :=
  (json.part? order name).map Subtype.val

/-- The text of a string. -/
def asString? : Json → Option String
  | string text => some text
  | _ => none

/-- The value of a truth value. -/
def asBool? : Json → Option Bool
  | bool value => some value
  | _ => none

/-- The value of a natural number below 2^64. A number that is written with a fraction is none. -/
def asWord? : Json → Option UInt64
  | number (.ofNat n) 0 => if n < UInt64.size then some n.toUInt64 else none
  | _ => none

/-- The items of an array. -/
def asArray? : Json → Option (List Json)
  | array items => some items
  | _ => none

/-- The fields of an object. -/
def asObject? : Json → Option (List (String × Json))
  | object fields => some fields
  | _ => none

/-- Whether a value is nothing: `null`, or an object without fields if it has been kept. -/
def isNothing (origin : Origin) : Json → Bool
  | null => true
  | object [] => origin = .kept
  | _ => false

/-- The word that a value stands for: a text, or the name of the one field of an object, which has
nothing in it. -/
def asVariant? (origin : Origin) : Json → Option String
  | string word => some word
  | object [(word, value)] => if value.isNothing origin then some word else none
  | _ => none

/-- Reads a value that may be `null`. -/
def orNull? {α : Type} (decode? : Json → Option α) : Json → Option (Option α)
  | null => some none
  | part => (decode? part).map some

/-- A field that has to be there. -/
def required? {α : Type} (decode? : Json → Option α) (json : Json) (order : List String)
    (name : String) : Option α :=
  (json.field? order name).bind decode?

/-- A field that may be missing, with the value that it then has. -/
def defaulted? {α : Type} (decode? : Json → Option α) (value : α) (json : Json)
    (order : List String) (name : String) : Option α :=
  match json.field? order name with
  | some part => decode? part
  | none => some value

/-- A field that may be `null`, and that may be missing in an object. -/
def optional? {α : Type} (decode? : Json → Option α) (json : Json) (order : List String)
    (name : String) : Option (Option α) :=
  match json.field? order name with
  | some part => orNull? decode? part
  | none => if json.isObject then some none else none

end Json

end Nomenclator
