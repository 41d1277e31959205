/-!
# TOML values

A document is a table of named values. A table remembers how it came about, because that decides
whether a later line of the document may add to it.
-/

namespace Nomenclator.Toml

/-- A day of the calendar. -/
structure Date where
  year : Nat
  month : Nat
  day : Nat
deriving DecidableEq, Repr

/-- A time of day; the second may be a leap second. -/
structure Time where
  hour : Nat
  minute : Nat
  second : Nat
  nanosecond : Nat
deriving DecidableEq, Repr

/-- How far a local time is from universal time. -/
inductive Offset where
  | universal
  | minutes (count : Int)
deriving DecidableEq, Repr

/-- A date, a time, or both; only both together may have an offset. -/
inductive DateTime where
  | date (day : Date)
  | time (clock : Time)
  | both (day : Date) (clock : Time) (offset? : Option Offset)
deriving DecidableEq, Repr

/-- How a table came about. -/
inductive Origin where
  /-- It has a header of its own. -/
  | header
  /-- It is named on the way in the header of another table. -/
  | implied
  /-- It is named on the way in a dotted key. -/
  | dotted
  /-- It is written in braces. -/
  | braces
deriving DecidableEq, Repr

/-- A value in a document. -/
inductive Value where
  | string (text : String)
  | integer (value : Int)
  /-- A number with a fraction or an exponent, or one of the special numbers, as it is written. -/
  | float (literal : String)
  | boolean (value : Bool)
  | dateTime (value : DateTime)
  | array (items : List Value)
  | table (origin : Origin) (entries : List (String × Value))
  /-- The tables whose headers have double brackets. -/
  | tables (elements : List (List (String × Value)))

/-- The entries of a table. -/
abbrev Entries : Type :=
  List (String × Value)

/-- The value of a key. -/
def Entries.find? (entries : Entries) (key : String) : Option Value :=
  List.lookup key entries

/-- The entries with another value for a key; a new key comes last. -/
def Entries.put (entries : Entries) (key : String) (value : Value) : Entries :=
  match entries with
  | [] => [(key, value)]
  | (name, old) :: rest =>
    if name = key then (key, value) :: rest else (name, old) :: Entries.put rest key value

end Nomenclator.Toml
