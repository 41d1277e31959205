import Nomenclator.Interop.Annotations
import Nomenclator.Proofs.Snippet.Literal
import Nomenclator.Proofs.Snippet.Text

/-!
# Names in annotations are read back

The annotation of a file is its two classes in a frame of fixed text (`text_fileSnippet`). An
annotation with a foreign name begins with its class and an opening bracket, and then comes the name
as a string literal. What follows says only whether the name is exact (`text_nameSnippet`). The
literal is read back whatever follows, so a foreign name, which may be any text, can neither end the
literal early nor bring in an argument of its own: where the class is written alike, annotations
have the same text only if they have the same name and say the same about it.
-/

namespace Nomenclator.Interop.Annotations

open Snippet (LiteralItem exists_readLiteral?_stringLiteral eq_of_text_stringLiteral_append
  readLiteral? stringLiteral text_inBrackets text_join text_separated)

/-! ### The text of an annotation -/

/-- What follows the name in an annotation. -/
def afterName : Option Bool → String
  | none => ")"
  | some true => ", exact = true)"
  | some false => ", exact = false)"

theorem afterName_injective : Function.Injective afterName := by
  intro exactness? exactness?' h
  revert exactness? exactness?'
  decide

/-- The arguments of an annotation, up to the closing bracket. -/
theorem text_arguments (name : String) (exactness? : Option Bool) :
    (Snippet.commaSeparated [stringLiteral name, exactArgument exactness?]).text ++ ")" =
      (stringLiteral name).text ++ afterName exactness? := by
  have hliteral : (stringLiteral name).isEmpty = false := by
    rw [stringLiteral, Snippet.ofText, if_neg]
    · rfl
    · simp
  rw [Snippet.commaSeparated, text_separated, List.filter_cons, hliteral, Bool.not_false, if_pos rfl]
  cases exactness? with
  | none =>
    have hnone : [exactArgument none].filter (!·.isEmpty) = [] := rfl
    rw [hnone, List.map_singleton, String.intercalate_singleton]
    rfl
  | some exact =>
    have hsome : [exactArgument (some exact)].filter (!·.isEmpty) = [exactArgument (some exact)] := by
      cases exact <;> rfl
    have hafter : ", " ++ (exactArgument (some exact)).text ++ ")" = afterName (some exact) := by
      cases exact <;> rfl
    rw [hsome, List.map_cons, List.map_singleton, String.intercalate_cons_cons,
      String.intercalate_singleton, ← hafter]
    simp only [String.append_assoc]

/-- **The text of an annotation with a foreign name.** -/
theorem text_nameSnippet (nameClass : Snippet) (name : String) (exactness? : Option Bool) :
    (nameSnippet nameClass name exactness?).text =
      "@" ++ nameClass.text ++ "(" ++ ((stringLiteral name).text ++ afterName exactness?) := by
  rw [← text_arguments, nameSnippet, text_join]
  simp [text_inBrackets, String.append_assoc]

/-- **The text of the annotation of a file.** -/
theorem text_fileSnippet (optInClass markerClass : Snippet) :
    (fileSnippet optInClass markerClass).text =
      "@file:" ++ optInClass.text ++ "(" ++ markerClass.text ++ "::class)" := by
  have hclose : "::class" ++ ")" = "::class)" := rfl
  rw [fileSnippet, text_join, ← hclose]
  simp [text_inBrackets, text_join, String.append_assoc]

/-! ### Reading it back -/

/-- **Names in annotations are read back exactly.** A string literal is read to its closing quote and
no further, whatever follows, and gives its value; no dollar sign and no line feed in it stands for
itself. So where an annotation class is written alike, two annotations have the same text only if
they have the same name and say the same about its exactness. -/
theorem name_literals_read_back (value after : String) :
    (∃ body items, ((stringLiteral value).text ++ after).toList = '"' :: body ∧
      readLiteral? body = some (items, after.toList) ∧
      String.ofList (items.map LiteralItem.value) = value ∧
      ∀ item ∈ items, item ≠ .plain '$' ∧ item ≠ .plain '\n') ∧
    ∀ (settings other : Settings) (unit next : NamingUnit),
      (unit.bareOrPath settings.annotations.interopName).1.text =
          (next.bareOrPath other.annotations.interopName).1.text →
        ∀ (name name' : String) (exactness? exactness?' : Option Bool),
          (withName settings name exactness? unit).1.text =
              (withName other name' exactness?' next).1.text ↔
            name = name' ∧ exactness? = exactness?' := by
  refine ⟨exists_readLiteral?_stringLiteral value after, ?_⟩
  intro settings other unit next hclass name name' exactness? exactness?'
  have htext (settings : Settings) (unit : NamingUnit) (name : String) (exactness? : Option Bool) :
      (withName settings name exactness? unit).1.text =
        "@" ++ (unit.bareOrPath settings.annotations.interopName).1.text ++ "(" ++
          ((stringLiteral name).text ++ afterName exactness?) :=
    text_nameSnippet _ name exactness?
  rw [htext, htext, hclass, String.append_right_inj]
  constructor
  · intro h
    obtain ⟨hname, hafter⟩ := eq_of_text_stringLiteral_append h
    exact ⟨hname, afterName_injective hafter⟩
  · rintro ⟨rfl, rfl⟩
    rfl

/-- A name cannot bring in the argument of another annotation, or escape its own closing quote. -/
theorem name_literals_read_back_quotes :
    let unit := NamingUnit.ofLabel "ui/Labels.kt"
    let next := (withName .default "label" none unit).2
    (unit.bareOrPath "kotlin.native.ObjCName").1.text =
        (next.bareOrPath "kotlin.native.ObjCName").1.text ∧
      (∃ body items, ((stringLiteral "a\\").text ++ "\")").toList = '"' :: body ∧
        readLiteral? body = some (items, "\")".toList) ∧
        String.ofList (items.map LiteralItem.value) = "a\\" ∧
        ∀ item ∈ items, item ≠ .plain '$' ∧ item ≠ .plain '\n') ∧
      (withName .default "a\", exact = true" none unit).1.text ≠
        (withName .default "a" (some true) next).1.text := by
  intro unit next
  have hclass : (unit.bareOrPath Settings.default.annotations.interopName).1.text =
      (next.bareOrPath Settings.default.annotations.interopName).1.text := by
    decide +kernel
  obtain ⟨hliteral, hannotations⟩ := name_literals_read_back "a\\" "\")"
  have htexts := hannotations .default .default unit next hclass
    "a\", exact = true" "a" none (some true)
  exact ⟨hclass, hliteral, fun h => absurd (htexts.mp h).2 (by decide)⟩

end Nomenclator.Interop.Annotations
