import Nomenclator.Text.Parser
import Nomenclator.Toml.Value

/-!
# Dates and times

Dates and times are written as in RFC 3339, with a space or either case of the letter T between the
date and the time. Fractions of a second are read to the nanosecond, and further digits are dropped.
-/

namespace Nomenclator.Toml

open Text Parser

/-- The number that decimal digits stand for. -/
def numberOfDigits (digits : List Char) : Nat :=
  digits.foldl (fun number digit => 10 * number + (digit.toNat - '0'.toNat)) 0

/-- A number as decimal digits with zeros in front. -/
def padded (width number : Nat) : String :=
  let digits := toString number
  String.ofList (List.replicate (width - digits.length) '0') ++ digits

/-! ### Writing -/

namespace Date

/-- A date in its usual form. -/
def text (date : Date) : String :=
  padded 4 date.year ++ "-" ++ padded 2 date.month ++ "-" ++ padded 2 date.day

/-- The number of days of a month. -/
def daysOfMonth (year month : Nat) : Nat :=
  if month = 2 then
    if year % 4 = 0 ∧ (year % 100 ≠ 0 ∨ year % 400 = 0) then 29 else 28
  else if month = 4 ∨ month = 6 ∨ month = 9 ∨ month = 11 then 30
  else 31

end Date

/-- The fraction of a second, without zeros at the end; nothing for a whole second. -/
def fractionText (nanosecond : Nat) : String :=
  if nanosecond = 0 then ""
  else
    let digits := (padded 9 nanosecond).toList.reverse.dropWhile (· == '0')
    String.ofList ('.' :: digits.reverse)

/-- A time in its usual form. -/
def Time.text (time : Time) : String :=
  padded 2 time.hour ++ ":" ++ padded 2 time.minute ++ ":" ++ padded 2 time.second ++
    fractionText time.nanosecond

/-- An offset in its usual form. -/
def Offset.text : Offset → String
  | .universal => "Z"
  | .minutes count =>
    let size := count.natAbs
    (if count < 0 then "-" else "+") ++ padded 2 (size / 60) ++ ":" ++ padded 2 (size % 60)

namespace DateTime

/-- A date, a time, or both in their usual form. -/
def text : DateTime → String
  | .date day => day.text
  | .time clock => clock.text
  | .both day clock offset? => day.text ++ "T" ++ clock.text ++ (offset?.map Offset.text).getD ""

end DateTime

/-! ### Reading -/

/-- A number of exactly so many digits within bounds. -/
def boundedNumber (width low high : Nat) : Parser Nat := do
  let digits ← times (satisfy Char.isDigit) width
  let number := numberOfDigits digits
  if low ≤ number ∧ number ≤ high then return number else failure

/-- A date. -/
def date : Parser Date := do
  let year ← boundedNumber 4 0 9999
  char '-'
  let month ← boundedNumber 2 1 12
  char '-'
  let day ← boundedNumber 2 1 (Date.daysOfMonth year month)
  return { year, month, day }

/-- The digits after the point of a second. -/
def fraction : Parser Nat := do
  char '.'
  let digits ← takeWhile1 Char.isDigit
  return numberOfDigits ((digits ++ List.replicate 9 '0').take 9)

/-- A time. -/
def time : Parser Time := do
  let hour ← boundedNumber 2 0 23
  char ':'
  let minute ← boundedNumber 2 0 59
  char ':'
  let second ← boundedNumber 2 0 60
  let fraction? ← optional fraction
  return { hour, minute, second, nanosecond := fraction?.getD 0 }

/-- The distance from universal time, as hours and minutes. -/
def distance : Parser Int := do
  let hours ← boundedNumber 2 0 23
  char ':'
  let minutes ← boundedNumber 2 0 59
  return ((60 * hours + minutes : Nat) : Int)

/-- An offset. -/
def offset : Parser Offset :=
  (do
    let _ ← satisfy fun c => c == 'Z' || c == 'z'
    return .universal) <|>
  (do
    char '+'
    return .minutes (← distance)) <|>
  (do
    char '-'
    return .minutes (-(← distance)))

/-- The time after a date. -/
def timeAfterDate : Parser (Time × Option Offset) := do
  let _ ← satisfy fun c => c == 'T' || c == 't' || c == ' '
  let time ← time
  let offset? ← optional offset
  return (time, offset?)

/-- A date, a time, or both. -/
def dateTime : Parser DateTime :=
  (do
    let date ← date
    match ← optional timeAfterDate with
    | some (time, offset?) => return .both date time offset?
    | none => return .date date) <|>
  (do
    return .time (← time))

end Nomenclator.Toml
