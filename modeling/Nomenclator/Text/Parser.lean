/-!
# Parsers on lists of characters

A parser takes some characters off the front of a text and gives a value, or fails. Alternatives are
tried in order, each from where the first one began. There are no error positions: a text is read or
it is not.
-/

namespace Nomenclator.Text

/-- Reads a value off the front of a text. -/
def Parser (α : Type) : Type :=
  List Char → Option (α × List Char)

namespace Parser

variable {α β : Type}

instance : Monad Parser where
  pure a := fun text => some (a, text)
  bind p f := fun text =>
    match p text with
    | some (a, rest) => f a rest
    | none => none

instance : Alternative Parser where
  failure := fun _ => none
  orElse p q := fun text =>
    match p text with
    | some result => some result
    | none => q () text

/-- The value of a parser that reads a whole text. -/
def readAll? (p : Parser α) (text : List Char) : Option α :=
  match p text with
  | some (a, []) => some a
  | _ => none

/-- The value of an option. -/
def ofOption : Option α → Parser α
  | some a => pure a
  | none => failure

/-- A character that meets a condition. -/
def satisfy (p : Char → Bool) : Parser Char
  | c :: rest => if p c then some (c, rest) else none
  | [] => none

/-- A given character. -/
def char (c : Char) : Parser Unit := do
  let _ ← satisfy (· == c)

/-- A given text. -/
def exactly (word : String) : Parser Unit := fun text =>
  (word.toList.isPrefixOf? text).map ((), ·)

/-- The longest run of characters that meet a condition. -/
def takeWhile (p : Char → Bool) : Parser (List Char) := fun text =>
  some (text.span p)

/-- The longest run of characters that meet a condition, and at least one of them. -/
def takeWhile1 (p : Char → Bool) : Parser (List Char) := do
  let first ← satisfy p
  let rest ← takeWhile p
  return first :: rest

/-- The end of the text. -/
def finish : Parser Unit
  | [] => some ((), [])
  | _ :: _ => none

/-- As many values as there are, up to a limit. -/
def upTo (p : Parser α) : Nat → Parser (List α)
  | 0 => pure []
  | limit + 1 => fun text =>
    match p text with
    | some (a, rest) => (upTo p limit rest).map fun (as, last) => (a :: as, last)
    | none => some ([], text)

/-- As many values as there are, of a parser that takes at least one character for each. -/
def many (p : Parser α) : Parser (List α) := fun text =>
  upTo p text.length text

/-- A given number of values. -/
def times (p : Parser α) : Nat → Parser (List α)
  | 0 => pure []
  | count + 1 => do
    let first ← p
    let rest ← times p count
    return first :: rest

/-- Values with something between them, and at least one value. -/
def separatedBy (p : Parser α) (separator : Parser β) : Parser (List α) := do
  let first ← p
  let rest ← many (separator *> p)
  return first :: rest

end Parser

end Nomenclator.Text
