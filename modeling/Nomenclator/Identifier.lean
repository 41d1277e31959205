import Nomenclator.DottedName
import Nomenclator.Unicode.Alphabetic
import Nomenclator.Unicode.Numeric

/-!
# Identifiers in the output

Every name that reaches the output goes through `sanitize`. A dollar sign, which the target grammar
does not accept, becomes `___`. Then a word that the interop exporter refuses even when quoted gets
`__` appended, and a reserved word or a text outside the identifier grammar is put in backticks.

The replacement of the dollar sign loses information: `a$b` and `a___b` get the same spelling.
-/

namespace Nomenclator.Identifier

/-- Stands for a dollar sign. -/
def dollarReplacement : String := "___"

/-- Follows a word that cannot be used even in quotes. -/
def forbiddenSuffix : String := "__"

/-- Reserved words that may be used in quotes only. -/
def hardKeywords : List String :=
  ["as", "break", "class", "continue", "do", "else", "false", "for", "fun", "if", "in",
   "interface", "is", "null", "object", "package", "return", "super", "this", "throw", "true",
   "try", "typealias", "typeof", "val", "var", "when", "while"]

/-- Reserved words that the interop exporter refuses even in quotes. -/
def forbiddenKeywords : List String :=
  ["alloc", "class", "init", "mutableCopy", "new", "self"]

/-- Whether a word may be used in quotes only. -/
def isHardKeyword (word : String) : Bool :=
  hardKeywords.contains word

/-- Whether a word may not be used even in quotes. -/
def isForbiddenKeyword (word : String) : Bool :=
  forbiddenKeywords.contains word

/-- Whether a character may stand inside an identifier. -/
def isIdentifierChar (c : Char) : Bool :=
  Unicode.isAlphabetic c || Unicode.isNumeric c || c == '_'

/-- Whether a character may begin an identifier. -/
def isIdentifierStart (c : Char) : Bool :=
  isIdentifierChar c && !Unicode.isNumeric c

/-- Whether a text follows the identifier grammar: a letter or an underscore, and then letters,
digits and underscores. Keywords are not excluded. -/
def isValid (text : String) : Bool :=
  match text.toList with
  | [] => false
  | first :: rest => isIdentifierStart first && rest.all isIdentifierChar

/-- The text between backticks. -/
def quoted (text : String) : String :=
  "`" ++ text ++ "`"

/-- The spelling of a name without dollar signs. -/
def protect (name : String) : String :=
  if isForbiddenKeyword name then name ++ forbiddenSuffix
  else if isHardKeyword name || !isValid name then quoted name
  else name

/-- The spelling of any name in the output. -/
def sanitize (name : String) : String :=
  protect (Text.replaceChar '$' dollarReplacement name)

/-- The spelling of a dotted path in the output, segment by segment. -/
def sanitizePath (name : String) : String :=
  DottedName.ofSegments ((DottedName.segments name).map sanitize)

/-- The spelling of the last segment of a dotted path: the identifier by which the entity is known
when nothing else competes for it. -/
def ofSimpleName (name : String) : String :=
  sanitize (DottedName.simpleName name)

end Nomenclator.Identifier
