/-!
# Snippets of output

A snippet is a list of text fragments that are written one after the other. The operations cover
what written names need: brackets, separators, assignments and literals. Layout is left to whoever
assembles the output.

An empty text adds no fragment, so a snippet is empty exactly when its text is. A separator is the
one fragment that may be an empty text, and it stands between two snippets that are not empty.
-/

namespace Nomenclator

/-- Text fragments in the order in which they are written. -/
structure Snippet where
  fragments : List String
deriving DecidableEq, Repr

namespace Snippet

/-- The text of a snippet. -/
def text (snippet : Snippet) : String :=
  String.join snippet.fragments

/-- Whether a snippet has no fragments. -/
def isEmpty (snippet : Snippet) : Bool :=
  snippet.fragments.isEmpty

/-- The snippet without fragments. -/
def empty : Snippet :=
  ⟨[]⟩

/-- A snippet of one fragment; an empty text gives the empty snippet. -/
def ofText (text : String) : Snippet :=
  if text.isEmpty then empty else ⟨[text]⟩

@[simp]
theorem text_ofText (text : String) : (ofText text).text = text := by
  rw [ofText]
  split
  · rename_i hempty
    rw [String.isEmpty_iff.mp hempty]
    rfl
  · simp [Snippet.text, String.join]

/-- Several snippets one after the other. -/
def join (snippets : List Snippet) : Snippet :=
  ⟨snippets.flatMap fragments⟩

/-- Fragment lists with a separator between them. -/
def separate (separator : String) : List (List String) → List String
  | [] => []
  | [fragments] => fragments
  | fragments :: rest => fragments ++ separator :: separate separator rest

/-- The snippets that are not empty, with a separator between them. -/
def separated (separator : String) (snippets : List Snippet) : Snippet :=
  ⟨separate separator ((snippets.map fragments).filter (!·.isEmpty))⟩

/-- The snippets that are not empty, with a comma between them. -/
def commaSeparated (snippets : List Snippet) : Snippet :=
  separated ", " snippets

/-- A snippet in round brackets. -/
def inBrackets (snippet : Snippet) : Snippet :=
  join [ofText "(", snippet, ofText ")"]

/-- A name and a value with an equals sign between them. -/
def assignment (name value : Snippet) : Snippet :=
  join [name, ofText " = ", value]

/-- How a character is written inside a string literal. -/
def escapeChar : Char → List Char
  | '\\' => ['\\', '\\']
  | '"' => ['\\', '"']
  | '$' => ['\\', '$']
  | '\n' => ['\\', 'n']
  | c => [c]

/-- A string literal in double quotes. A backslash, a double quote and a dollar sign get a backslash
in front, and a line feed is written as `\n`. -/
def stringLiteral (value : String) : Snippet :=
  ofText (String.ofList ('"' :: value.toList.flatMap escapeChar ++ ['"']))

/-- One of the words `true` and `false`. -/
def boolLiteral (value : Bool) : Snippet :=
  ofText (if value then "true" else "false")

end Snippet

end Nomenclator
