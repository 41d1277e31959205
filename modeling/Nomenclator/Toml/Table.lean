import Nomenclator.Toml.Value

/-!
# Building tables

A document is a list of sections, each with a header and with keys of its own, and a key may be
dotted and so lead into tables inside. Every table may be named on the way as often as needed, but
it has one definition: what has a header is not opened by a dotted key or by a second header, and
what is written in braces or as any other value is not opened at all.

Where a dotted key leads into tables that exist already, the last of them has to come from dotted
keys too. A key that ends in a table implied by a header is refused, although one that passes
through it into a further table is not.
-/

namespace Nomenclator.Toml

/-- Which lines lead into a table. -/
inductive Access where
  /-- The path of a header. -/
  | byHeader
  /-- A dotted key. -/
  | byKey
deriving DecidableEq

/-- How a table on the way comes about when it is not there yet. -/
def Access.origin : Access → Origin
  | byHeader => .implied
  | byKey => .dotted

/-- Whether a table on the way may be passed. -/
def Access.passes : Access → Origin → Bool
  | _, .braces => false
  | byHeader, _ => true
  | byKey, origin => origin != .header

/-- Changes the table at the end of a path, which begins in a table of the given origin. Tables that
are not there yet are made on the way; among tables with double brackets the last one counts. -/
def Entries.descend (access : Access) (change : Origin → Entries → Option Entries) (origin : Origin)
    (entries : Entries) (path : List String) : Option Entries :=
  match path with
  | [] => change origin entries
  | key :: rest =>
    match entries.find? key with
    | none => do
      let inner ← Entries.descend access change access.origin [] rest
      return entries.put key (.table access.origin inner)
    | some (.table inner content) =>
      if access.passes inner then do
        let changed ← Entries.descend access change inner content rest
        return entries.put key (.table inner changed)
      else none
    | some (.tables elements) =>
      match elements.getLast? with
      | some content => do
        let changed ← Entries.descend access change .header content rest
        return entries.put key (.tables (elements.dropLast ++ [changed]))
      | none => none
    | some _ => none

/-- Adds a value under a key, which may be dotted, to a table with a definition of its own. -/
def Entries.addPair? (entries : Entries) (path : List String) (value : Value) : Option Entries :=
  match path.getLast? with
  | none => none
  | some key =>
    let way := path.dropLast
    let add (origin : Origin) (content : Entries) : Option Entries :=
      if (origin == .dotted) == way.isEmpty then none
      else if (content.find? key).isSome then none
      else some (content.put key value)
    entries.descend .byKey add .header way

/-- Adds several values. -/
def Entries.addPairs? (entries : Entries) (pairs : List (List String × Value)) : Option Entries :=
  pairs.foldlM (fun content (path, value) => content.addPair? path value) entries

/-- A header and the keys below it. -/
structure Section where
  /-- The keys in the brackets. -/
  path : List String
  /-- Whether the brackets are double. -/
  isElement : Bool
  /-- The keys, which may be dotted, with their values. -/
  pairs : List (List String × Value)

/-- The entry of a section in the table that holds it: one more element of an array of tables, or
the definition of a table that has been implied so far. -/
def Section.entry? (part : Section) : Option Value → Option Value
  | none => do
    let content ← Entries.addPairs? [] part.pairs
    return if part.isElement then .tables [content] else .table .header content
  | some (.tables elements) =>
    if part.isElement then do
      let content ← Entries.addPairs? [] part.pairs
      return .tables (elements ++ [content])
    else none
  | some (.table .implied implied) =>
    if part.isElement then none
    else do
      let content ← Entries.addPairs? implied part.pairs
      return .table .header content
  | some _ => none

/-- Adds a section to a document. -/
def Entries.addSection? (document : Entries) (part : Section) : Option Entries :=
  match part.path.getLast? with
  | none => none
  | some key =>
    let add (_ : Origin) (content : Entries) : Option Entries := do
      let entry ← part.entry? (content.find? key)
      return content.put key entry
    document.descend .byHeader add .header part.path.dropLast

/-- A document of values without a header and of sections. -/
def Entries.ofSections? (pairs : List (List String × Value)) (sections : List Section) :
    Option Entries := do
  let document ← Entries.addPairs? [] pairs
  sections.foldlM Entries.addSection? document

end Nomenclator.Toml
