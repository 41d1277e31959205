import Mathlib.Tactic
import Nomenclator.Snippet

/-!
# String literals are read back

The reader of a string literal begins after the opening quote, decodes escapes, and stops at the
first quote that is not part of one. It takes the spelling of a character for that character
whatever follows (`readLiteral?_escapeChar`): a backslash in the value has a backslash of its own, so
a run of backslashes never reaches the quote behind it. By induction on the value, the literal is
read to its own closing quote and no further (`exists_readLiteral?_stringLiteral`).
-/

namespace Nomenclator.Snippet

/-! ### The reader -/

/-- A character of a literal in the form in which a reader meets it. -/
inductive LiteralItem where
  /-- A character that stands for itself. -/
  | plain (c : Char)
  /-- An escape, by the character that it stands for. -/
  | escaped (c : Char)
deriving DecidableEq, Repr

/-- The character that an item stands for. -/
def LiteralItem.value : LiteralItem → Char
  | plain c | escaped c => c

/-- The character that an escape stands for, from what follows its backslash. -/
def escapeValue? : Char → Option Char
  | '\\' => some '\\'
  | '"' => some '"'
  | '$' => some '$'
  | 'n' => some '\n'
  | _ => none

/-- Reads a literal after its opening quote, and gives its items and the text after its closing
quote. There is no literal where the closing quote is missing or an escape is unknown. -/
def readLiteral? : List Char → Option (List LiteralItem × List Char)
  | [] => none
  | '"' :: after => some ([], after)
  | '\\' :: code :: rest =>
    match escapeValue? code with
    | some c => (readLiteral? rest).map fun (items, after) => (.escaped c :: items, after)
    | none => none
  | c :: rest => (readLiteral? rest).map fun (items, after) => (.plain c :: items, after)

/-! ### Reading what was written -/

/-- The item that a character is written as. -/
def literalItem (c : Char) : LiteralItem :=
  if c ∈ ['\\', '"', '$', '\n'] then .escaped c else .plain c

theorem value_literalItem (c : Char) : (literalItem c).value = c := by
  rw [literalItem]
  split <;> rfl

theorem literalItem_ne_plain {c d : Char} (hd : d ∈ ['\\', '"', '$', '\n']) :
    literalItem c ≠ .plain d := by
  rw [literalItem]
  split
  · exact LiteralItem.noConfusion
  · rename_i hc
    rintro ⟨⟩
    exact hc hd

/-- **The spelling of a character is read as this character**, whatever follows. -/
theorem readLiteral?_escapeChar (c : Char) (rest : List Char) :
    readLiteral? (escapeChar c ++ rest) =
      (readLiteral? rest).map fun (items, after) => (literalItem c :: items, after) := by
  by_cases hc : c ∈ ['\\', '"', '$', '\n']
  · have hitem : literalItem c = .escaped c := if_pos hc
    rw [hitem]
    -- each of the four is written with a backslash in front
    fin_cases hc <;> rfl
  · have hitem : literalItem c = .plain c := if_neg hc
    simp only [List.mem_cons, List.not_mem_nil, or_false, not_or] at hc
    obtain ⟨hbackslash, hquote, hdollar, hfeed⟩ := hc
    have hplain : escapeChar c = [c] := by
      simp [escapeChar]
    rw [hitem, hplain, List.singleton_append, readLiteral?]
    · exact hquote
    · exact fun _ _ h => absurd h hbackslash

/-- The spelling of a value is read up to the quote behind it. -/
theorem readLiteral?_flatMap_escapeChar (value after : List Char) :
    readLiteral? (value.flatMap escapeChar ++ '"' :: after) =
      some (value.map literalItem, after) := by
  induction value with
  | nil => rfl
  | cons c rest ih =>
    rw [List.flatMap_cons, List.append_assoc, readLiteral?_escapeChar, ih]
    rfl

theorem toList_text_stringLiteral (value : String) :
    (stringLiteral value).text.toList = '"' :: (value.toList.flatMap escapeChar ++ ['"']) := by
  rw [stringLiteral, text_ofText, String.toList_ofList, List.cons_append]

/-- **A string literal is read back exactly**, whatever follows. The reader takes the literal and no
more, and in it a dollar sign or a line feed never stands for itself. -/
theorem exists_readLiteral?_stringLiteral (value after : String) :
    ∃ body items, ((stringLiteral value).text ++ after).toList = '"' :: body ∧
      readLiteral? body = some (items, after.toList) ∧
      String.ofList (items.map LiteralItem.value) = value ∧
      ∀ item ∈ items, item ≠ .plain '$' ∧ item ≠ .plain '\n' := by
  refine ⟨value.toList.flatMap escapeChar ++ '"' :: after.toList, value.toList.map literalItem,
    ?_, readLiteral?_flatMap_escapeChar _ _, ?_, ?_⟩
  · rw [String.toList_append, toList_text_stringLiteral, List.cons_append, List.append_assoc]
    rfl
  · rw [List.map_map]
    have hvalue : LiteralItem.value ∘ literalItem = id := funext value_literalItem
    rw [hvalue, List.map_id, String.ofList_toList]
  · intro item hitem
    obtain ⟨c, -, rfl⟩ := List.mem_map.mp hitem
    exact ⟨literalItem_ne_plain (by simp), literalItem_ne_plain (by simp)⟩

/-- **Literals are told apart by their texts**, whatever follows. -/
theorem eq_of_text_stringLiteral_append {value other after rest : String}
    (h : (stringLiteral value).text ++ after = (stringLiteral other).text ++ rest) :
    value = other ∧ after = rest := by
  obtain ⟨body, items, hbody, hread, hvalue, -⟩ := exists_readLiteral?_stringLiteral value after
  obtain ⟨body', items', hbody', hread', hother, -⟩ := exists_readLiteral?_stringLiteral other rest
  rw [h, hbody'] at hbody
  cases hbody
  rw [hread'] at hread
  obtain ⟨rfl, hafter⟩ := Prod.mk.inj (Option.some.inj hread)
  exact ⟨hvalue.symm.trans hother, (String.toList_inj.mp hafter).symm⟩

end Nomenclator.Snippet
