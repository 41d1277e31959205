import Nomenclator.Text.Bytes
import Nomenclator.Unicode.Uppercase

/-!
# Selectors

A selector names a method together with its parameters: `setWidth:height:` has one part for each
parameter, and a colon after each part. The last colon may be missing.

The first part of an ordinary selector holds the name of the method and the label of the first
parameter. It is cut before its last capital, or in the middle where it has no capital after its
first character: `setWidth` is `set` and `Width`, and `scale` is `sc` and `ale`. The place of the
cut is counted in bytes, and the middle of the part in characters.
-/

namespace Nomenclator.Interop.Selector

/-- A text without a colon at its end, if there is one; further colons stay. -/
def dropColon (selector : List Char) : List Char :=
  if selector.getLast? = some ':' then selector.dropLast else selector

/-- The parts of a selector: the first one and the others. -/
def parts (selector : String) : String × List String :=
  match (dropColon selector.toList).splitOn ':' with
  | [] => ("", [])
  | first :: rest => (String.ofList first, rest.map String.ofList)

/-- Whether a character with its place is a capital which is not at the beginning. -/
def isLaterCapital : Nat × Char → Bool
  | (place, c) => 0 < place && Unicode.isUppercase c

/-- The place where a word is cut: that of its last capital which is not at its beginning, and
otherwise that of the character in its middle. -/
def cutPlace (word : String) : Nat :=
  let places := Text.charPlaces 0 word.toList
  match (places.filter isLaterCapital).getLast? with
  | some (place, _) => place
  | none =>
    match places[word.length / 2]? with
    | some (place, _) => place
    | none => word.utf8ByteSize

/-- Cuts a word of two or more characters into a name and a label. -/
def cutWord? (word : String) : Option (String × String) :=
  if word.length ≤ 1 then none
  else
    let place := cutPlace word
    some (Text.upToByte place word, Text.fromByte place word)

end Nomenclator.Interop.Selector
