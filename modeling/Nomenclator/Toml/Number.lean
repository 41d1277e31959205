import Nomenclator.Text.Parser
import Nomenclator.Toml.DateTime

/-!
# Numbers

Integers are signed 64-bit words, written in decimal with an optional sign, or in another base with
a marker and no sign. Single underscores may stand between digits, and a decimal integer has no
leading zeros. A number with a fraction or an exponent is kept as it is written, unless it is too
large for a double.
-/

namespace Nomenclator.Toml

open Text Parser

/-- Digits with single underscores between them, which are dropped. -/
def digitRun (isDigit : Char → Bool) : Parser (List Char) := do
  let first ← satisfy isDigit
  let rest ← many (satisfy isDigit <|> char '_' *> satisfy isDigit)
  return first :: rest

/-- An optional sign; the answer says whether it is a minus. -/
def sign : Parser Bool := do
  let sign? ← optional (satisfy fun c => c == '+' || c == '-')
  return sign? == some '-'

/-- The digits of a decimal integer, without leading zeros. -/
def wholeDigits : Parser (List Char) :=
  (do
    char '0'
    return ['0']) <|>
  digitRun Char.isDigit

/-- The value of a digit in a base up to sixteen. -/
def digitValue (c : Char) : Nat :=
  if c.isDigit then c.toNat - '0'.toNat else c.toLower.toNat - 'a'.toNat + 10

/-- Whether a character is a hexadecimal digit. -/
def isHexDigit (c : Char) : Bool :=
  c.isDigit || ('a' ≤ c.toLower && c.toLower ≤ 'f')

/-- The number that digits stand for in a base. -/
def numberInBase (base : Nat) (digits : List Char) : Nat :=
  digits.foldl (fun number digit => base * number + digitValue digit) 0

/-- A number as a signed 64-bit word. -/
def word? (number : Int) : Option Int :=
  if -0x8000000000000000 ≤ number ∧ number < 0x8000000000000000 then some number else none

/-- An integer in another base than ten, after its marker. -/
def integerInBase (marker : String) (base : Nat) (isDigit : Char → Bool) : Parser Int := do
  exactly marker
  let digits ← digitRun isDigit
  ofOption (word? (numberInBase base digits))

/-- An integer. -/
def integer : Parser Int :=
  integerInBase "0x" 16 isHexDigit <|>
  integerInBase "0o" 8 (fun c => '0' ≤ c && c ≤ '7') <|>
  integerInBase "0b" 2 (fun c => c == '0' || c == '1') <|>
  (do
    let negative ← sign
    let digits ← wholeDigits
    let size : Int := (numberOfDigits digits : Nat)
    ofOption (word? (if negative then -size else size)))

/-- The digits of a fraction, after the point. -/
def fractionDigits : Parser (List Char) := do
  char '.'
  digitRun Char.isDigit

/-- An exponent: whether it is negative, and its digits. -/
def exponent : Parser (Bool × List Char) := do
  let _ ← satisfy fun c => c == 'e' || c == 'E'
  let negative ← sign
  let digits ← digitRun Char.isDigit
  return (negative, digits)

/-- Whether `mantissa * 10 ^ power` is nearer to 2^1024 than to the largest double, or beyond. A
number whose digits alone decide it is not computed. -/
def exceedsDouble (mantissa : Nat) (power : Int) : Bool :=
  let magnitude := (Nat.toDigits 10 mantissa).length + power
  let bound := (1 <<< 1024) - (1 <<< 970)
  if mantissa = 0 ∨ magnitude < 309 then false
  else if magnitude > 309 then true
  else if power < 0 then bound * Nat.pow 10 power.natAbs ≤ mantissa
  else bound ≤ mantissa * Nat.pow 10 power.natAbs

/-- How a number is written: sign, whole part, fraction and exponent. -/
def floatLiteral (negative : Bool) (whole fraction : List Char)
    (exponent? : Option (Bool × List Char)) : String :=
  let sign := if negative then ['-'] else []
  let point := if fraction.isEmpty then [] else '.' :: fraction
  let power :=
    match exponent? with
    | some (true, digits) => 'e' :: '-' :: digits
    | some (false, digits) => 'e' :: digits
    | none => []
  String.ofList (sign ++ whole ++ point ++ power)

/-- A number with a fraction or an exponent. A negative number may be too large for a double. -/
def finiteFloat : Parser String := do
  let negative ← sign
  let whole ← wholeDigits
  let fraction? ← optional fractionDigits
  let exponent? ← optional exponent
  if fraction?.isNone && exponent?.isNone then failure
  let fraction := fraction?.getD []
  let power : Int :=
    match exponent? with
    | some (true, digits) => -(numberOfDigits digits : Int)
    | some (false, digits) => numberOfDigits digits
    | none => 0
  if !negative && exceedsDouble (numberOfDigits (whole ++ fraction)) (power - fraction.length) then
    failure
  return floatLiteral negative whole fraction exponent?

/-- One of the special numbers. -/
def specialFloat : Parser String := do
  let negative ← sign
  let word ← (do exactly "inf"; return "inf") <|> (do exactly "nan"; return "nan")
  return if negative then "-" ++ word else word

/-- A number that is not an integer. -/
def float : Parser String :=
  finiteFloat <|> specialFloat

end Nomenclator.Toml
