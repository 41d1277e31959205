import Nomenclator.DottedName

/-!
# Qualified names

A qualified name identifies one declared entity of the whole program by a dotted path without empty
segments: `org.jbox2d.common.Vec2`, `org.jbox2d.dynamics.Body.Flags`, or `Main` in the default
package. `parse` is the way in, and it reports the whole text when a segment is empty.

A name remembers the place of its last segment, in bytes, and is cut there into its package and its
simple name. Names are ordered by their spelling, code point by code point, which is also the order
of their UTF-8 bytes.
-/

namespace Nomenclator

/-- A dotted name without empty segments. -/
structure QualifiedName where
  spelling : String
  /-- The place of the last segment. -/
  simpleStart : Nat
  segments_ne_empty : ∀ segment ∈ DottedName.segments spelling, segment ≠ ""
  simpleStart_eq : simpleStart = DottedName.simpleStart spelling
deriving DecidableEq

namespace QualifiedName

/-- Why a text is not a qualified name. -/
inductive Error where
  /-- There is no text at all. -/
  | empty
  /-- The name has an empty segment. -/
  | emptySegment (name : String)
deriving DecidableEq, Repr

/-- The wording of an error. -/
def Error.message : Error → String
  | .empty => "Empty qualified name"
  | .emptySegment name => "Empty segment in qualified name: '" ++ name ++ "'"

/-- Reads a qualified name. -/
def parse (name : String) : Except Error QualifiedName :=
  if name = "" then .error .empty
  else if h : ∀ segment ∈ DottedName.segments name, segment ≠ "" then
    .ok
      { spelling := name
        simpleStart := DottedName.simpleStart name
        segments_ne_empty := h
        simpleStart_eq := rfl }
  else .error (.emptySegment name)

/-- The last segment. -/
def simpleName (name : QualifiedName) : String :=
  Text.fromByte name.simpleStart name.spelling

/-- Everything in front of the last dot; a name of one segment is in the default package. -/
def package? (name : QualifiedName) : Option String :=
  if name.simpleStart = 0 then none
  else some (Text.upToByte (name.simpleStart - 1) name.spelling)

/-- The name of a member nested directly inside this one. -/
def child (name : QualifiedName) (member : String) : Except Error QualifiedName :=
  parse (name.spelling ++ "." ++ member)

instance : Ord QualifiedName where
  compare a b := (compare a.spelling b.spelling).then (compare a.simpleStart b.simpleStart)

instance : ToString QualifiedName where
  toString := spelling

/-- The names in ascending order, each once. -/
def sortDistinct (names : List QualifiedName) : List QualifiedName :=
  (names.mergeSort fun a b => (compare a b).isLE).eraseReps

@[ext]
theorem ext {a b : QualifiedName} (h : a.spelling = b.spelling) : a = b := by
  have hstart : a.simpleStart = b.simpleStart := by
    rw [a.simpleStart_eq, b.simpleStart_eq, h]
  cases a
  cases b
  cases h
  cases hstart
  rfl

/-- A name reads back as itself. -/
theorem parse_spelling (name : QualifiedName) : parse name.spelling = .ok name := by
  have hne : name.spelling ≠ "" := by
    intro h
    exact name.segments_ne_empty "" (by rw [h]; decide) rfl
  rw [parse, if_neg hne, dif_pos name.segments_ne_empty]
  exact congrArg Except.ok (ext rfl)

/-- The text that was read is the spelling. -/
theorem spelling_of_parse {text : String} {name : QualifiedName} (h : parse text = .ok name) :
    name.spelling = text := by
  unfold parse at h
  split at h
  · cases h
  · split at h
    · cases h
      rfl
    · cases h

end QualifiedName

end Nomenclator
