/-!
# Places in a text, in bytes

A place in a text is the number of bytes of its UTF-8 form in front of it. A text can be cut where a
character begins (`charPlaces`) or at its end, and at no other place.
-/

namespace Nomenclator.Text

/-- Cuts a text after a number of bytes of its UTF-8 form. There is no cut inside a character or
beyond the end. -/
def splitAtByte? : Nat → List Char → Option (List Char × List Char)
  | 0, text => some ([], text)
  | _ + 1, [] => none
  | bytes + 1, c :: rest =>
    if c.utf8Size ≤ bytes + 1 then
      (splitAtByte? (bytes + 1 - c.utf8Size) rest).map fun (head, tail) => (c :: head, tail)
    else
      none

/-- The text from a place on. Where there is no cut, this is no text. -/
def fromByte (place : Nat) (text : String) : String :=
  match splitAtByte? place text.toList with
  | some (_, tail) => String.ofList tail
  | none => ""

/-- The text up to a place. Where there is no cut, this is no text. -/
def upToByte (place : Nat) (text : String) : String :=
  match splitAtByte? place text.toList with
  | some (head, _) => String.ofList head
  | none => ""

/-- The characters of a text with their places, where the first one has the given place. -/
def charPlaces : Nat → List Char → List (Nat × Char)
  | _, [] => []
  | start, c :: rest => (start, c) :: charPlaces (start + c.utf8Size) rest

/-- The place of the last occurrence of a character. -/
def lastByteOf? (c : Char) : List Char → Option Nat
  | [] => none
  | d :: rest =>
    match lastByteOf? c rest with
    | some place => some (d.utf8Size + place)
    | none => if d = c then some 0 else none

end Nomenclator.Text
