import Nomenclator.Text.Parser
import Nomenclator.Toml.Number

/-!
# Strings

A basic string stands between double quotes and has escapes, a literal string stands between single
quotes and has none. Three quotes on each side allow line breaks. There a line break right after the
opening quotes is dropped, every other line break reads as a line feed, and one or two quotes in a
row belong to the text, also right before the closing quotes. In a basic string with line breaks a
backslash at the end of a line drops the line break and all blank space after it.
-/

namespace Nomenclator.Toml

open Text Parser

/-- Whether a character is a space or a tab. -/
def isBlank (c : Char) : Bool :=
  c == ' ' || c == '\t'

/-- Whether a character may stand for itself in a literal string or a comment: no control character
but the tab. -/
def isPlain (c : Char) : Bool :=
  c == '\t' || (' ' ≤ c && c ≠ '\x7f')

/-- Whether a character may stand for itself in a basic string. -/
def isUnescaped (c : Char) : Bool :=
  isPlain c && c != '"' && c != '\\'

/-- Whether a character may stand for itself in a literal string. -/
def isLiteral (c : Char) : Bool :=
  isPlain c && c != '\''

/-- A line break. -/
def newline : Parser Unit :=
  exactly "\n" <|> exactly "\r\n"

/-- A character given by so many hexadecimal digits. -/
def codePoint (width : Nat) : Parser Char := do
  let digits ← times (satisfy isHexDigit) width
  let code := numberInBase 16 digits
  if code.isValidChar then return Char.ofNat code else failure

/-- An escape, after its backslash. -/
def escapeCode : Parser Char := do
  match ← satisfy fun _ => true with
  | 'b' => return '\x08'
  | 't' => return '\t'
  | 'n' => return '\n'
  | 'f' => return '\x0c'
  | 'r' => return '\r'
  | '"' => return '"'
  | '\\' => return '\\'
  | 'u' => codePoint 4
  | 'U' => codePoint 8
  | _ => failure

/-- An escape. -/
def escaped : Parser Char :=
  char '\\' *> escapeCode

/-- A string between double quotes on one line. -/
def basicString : Parser String := do
  char '"'
  let body ← many (satisfy isUnescaped <|> escaped)
  char '"'
  return String.ofList body

/-- A string between single quotes on one line. -/
def literalString : Parser String := do
  char '\''
  let body ← takeWhile isLiteral
  char '\''
  return String.ofList body

/-- One or two quotes within a string that is delimited by three. -/
def innerQuotes (quote : Char) : Parser (List Char) := do
  let quotes ← takeWhile1 (· == quote)
  if quotes.length ≤ 2 then return quotes else failure

/-- The closing quotes of a string that is delimited by three, with up to two quotes of the text in
front of them. -/
def closingQuotes (quote : Char) : Parser (List Char) := do
  let quotes ← takeWhile1 (· == quote)
  if 3 ≤ quotes.length ∧ quotes.length ≤ 5 then return quotes.drop 3 else failure

/-- A line break within a string. -/
def innerNewline : Parser (List Char) := do
  newline
  return ['\n']

/-- A backslash at the end of a line, and the blank space after it. -/
def lineContinuation : Parser (List Char) := do
  char '\\'
  let _ ← takeWhile isBlank
  newline
  let _ ← many ((do let _ ← satisfy isBlank) <|> newline)
  return []

/-- A string that is delimited by three quotes, of the given pieces. -/
def longString (quote : Char) (piece : Parser (List Char)) : Parser String := do
  let _ ← times (char quote) 3
  let _ ← optional newline
  let body ← many (piece <|> innerNewline <|> innerQuotes quote)
  let last ← closingQuotes quote
  return String.ofList (body.flatten ++ last)

/-- A character as a piece of a string. -/
def single (p : Parser Char) : Parser (List Char) := do
  return [← p]

/-- A string of any kind. -/
def string : Parser String :=
  longString '"' (lineContinuation <|> single (satisfy isUnescaped <|> escaped)) <|>
  longString '\'' (single (satisfy isLiteral)) <|>
  basicString <|> literalString

end Nomenclator.Toml
