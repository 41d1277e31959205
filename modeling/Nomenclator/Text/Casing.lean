import Nomenclator.Text.Bytes
import Nomenclator.Unicode.Lowercase
import Nomenclator.Unicode.UppercaseMapping

/-!
# Letter case at the start of a name

`titleCase` turns the first character of a name into a capital, and `startsWithWord` asks whether a
name begins with a given camel-case word. Neither guesses at word boundaries further on: `pDLL`
becomes `PDLL`, and `newton` does not begin with the word `new`.

A word is compared with the bytes of the name that would hold it. Where the cut falls inside a
character there is no such part of the name, and the answer is no.
-/

namespace Nomenclator.Text

open Unicode

/-- The name with its first character in capital form. -/
def titleCase (name : String) : String :=
  match name.toList with
  | [] => ""
  | first :: rest => String.ofList (uppercase first ++ rest)

/-- Whether two texts are equal up to the case of basic Latin letters. -/
def eqIgnoringLatinCase (s t : List Char) : Bool :=
  s.map Char.toLower == t.map Char.toLower

/-- Whether a name begins with a camel-case word: the word itself in any basic Latin case, and then
the end of the name or a character that is not a small letter. -/
def startsWithWord (name word : String) : Bool :=
  match splitAtByte? word.utf8ByteSize name.toList with
  | none => false
  | some (head, tail) => eqIgnoringLatinCase head word.toList && !tail.head?.any isLowercase

end Nomenclator.Text
