import Nomenclator.Toml.Quoted
import Nomenclator.Toml.Table

/-!
# Documents

The grammar of TOML 1.0 around the scalars: keys, arrays, tables in braces, headers and lines.
Arrays and tables in braces may be nested in each other up to a limit, and so may the parts of a
dotted key. `Toml.read?` reads a whole document, which may begin with a byte order mark.
-/

namespace Nomenclator.Toml

open Text Parser

/-- Arrays, tables in braces and parts of keys are nested less than this many times. -/
def nestingLimit : Nat :=
  80

/-- Spaces and tabs. -/
def blanks : Parser Unit := do
  let _ ← takeWhile isBlank

/-- A comment, without the end of its line. -/
def comment : Parser Unit := do
  char '#'
  let _ ← takeWhile isPlain

/-- The end of a line or of the document. -/
def lineEnd : Parser Unit :=
  newline <|> finish

/-- What may follow on a line that says something already. -/
def lineRest : Parser Unit := do
  blanks
  let _ ← optional comment
  lineEnd

/-- Blank space, line breaks and comments between the items of an array. -/
def gap : Parser Unit := do
  let _ ← many ((do let _ ← satisfy isBlank) <|> newline <|> (comment *> newline))

/-! ### Keys -/

/-- Whether a character may stand in a key without quotes. -/
def isBareKeyChar (c : Char) : Bool :=
  c.isAlphanum || c == '_' || c == '-'

/-- A part of a key. -/
def keyPart : Parser String :=
  basicString <|> literalString <|> String.ofList <$> takeWhile1 isBareKeyChar

/-- A part of a key with blank space around it. -/
def spacedKeyPart : Parser String := do
  blanks
  let part ← keyPart
  blanks
  return part

/-- A key of one or more parts. -/
def key : Parser (List String) := do
  let parts ← separatedBy spacedKeyPart (char '.')
  if parts.length < nestingLimit then return parts else failure

/-! ### Values -/

/-- A word that stands for a value. -/
def word (text : String) (value : Value) : Parser Value := do
  exactly text
  return value

/-- A value that holds no other values. -/
def scalar : Parser Value :=
  Value.string <$> string <|>
  Value.dateTime <$> dateTime <|>
  Value.float <$> float <|>
  Value.integer <$> integer <|>
  word "true" (.boolean true) <|>
  word "false" (.boolean false)

/-- An array of the given items. -/
def array (item : Parser Value) : Parser Value := do
  char '['
  gap
  let items ← optional (separatedBy (gap *> item <* gap) (char ','))
  if items.isSome then
    let _ ← optional (char ',')
  gap
  char ']'
  return .array (items.getD [])

/-- A key and its value. -/
def pair (item : Parser Value) : Parser (List String × Value) := do
  let path ← key
  char '='
  blanks
  let value ← item
  return (path, value)

/-- A table in braces with the given values. -/
def bracesTable (item : Parser Value) : Parser Value := do
  char '\x7b'
  blanks
  let pairs ← optional (separatedBy (pair item <* blanks) (char ','))
  char '\x7d'
  let entries ← ofOption (Entries.addPairs? [] (pairs.getD []))
  return .table .braces entries

/-- A value with at most so many levels of values inside. -/
def value : Nat → Parser Value
  | 0 => scalar
  | levels + 1 => scalar <|> array (value levels) <|> bracesTable (value levels)

/-! ### Lines -/

/-- A line that says something. -/
inductive Line where
  | pair (path : List String) (value : Value)
  | header (path : List String) (isElement : Bool)

/-- A line with a header. -/
def headerLine : Parser Line :=
  (do
    exactly "[["
    let path ← key
    exactly "]]"
    return .header path true) <|>
  (do
    char '['
    let path ← key
    char ']'
    return .header path false)

/-- A line with a key and its value. -/
def pairLine : Parser Line := do
  let (path, value) ← pair (value (nestingLimit - 1))
  return .pair path value

/-- A line, which may be blank or hold a comment only. -/
def line : Parser (Option Line) := do
  blanks
  (do newline; return none) <|>
    (do comment; lineEnd; return none) <|>
    (do
      let line ← headerLine <|> pairLine
      lineRest
      return some line)

/-- All lines of a document. -/
def lines : Parser (List Line) := do
  let _ ← optional (char '\ufeff')
  let lines ← many line
  blanks
  finish
  return lines.filterMap id

/-- The values before the first header, and the sections. -/
def sections : List Line → List (List String × Value) × List Section
  | [] => ([], [])
  | .pair path value :: rest =>
    let (pairs, parts) := sections rest
    ((path, value) :: pairs, parts)
  | .header path isElement :: rest =>
    let (pairs, parts) := sections rest
    ([], { path, isElement, pairs } :: parts)

/-- Reads a document. -/
def read? (text : String) : Option Entries := do
  let lines ← lines.readAll? text.toList
  let (pairs, parts) := sections lines
  Entries.ofSections? pairs parts

end Nomenclator.Toml
