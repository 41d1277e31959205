import Mathlib.Tactic
import Nomenclator.Snippet

/-!
# The texts of snippets

What the operations on snippets do to the texts. Only separators need care: they stand between
snippets that are not empty, so the snippets without fragments are left out of the text as well
(`text_separated`).

Whether a snippet is empty is asked of its fragments, and a separator may be a fragment without
text. Every operation keeps the two in step all the same, since a separator comes in only between
snippets that have a text of their own. So a snippet made by the operations is empty exactly if its
text is (`IsMade.tellsEmptiness`).

Separated snippets that are separated once more are one separated list
(`separated_map_separated`). A group with nothing in it leaves no separator behind, and any other
group can be taken apart where it stands (`separate_group`).
-/

namespace Nomenclator.Snippet

variable {separator value : String} {snippet : Snippet} {snippets : List Snippet}

theorem text_join (snippets : List Snippet) :
    (join snippets).text = String.join (snippets.map text) := by
  rw [← String.toList_inj]
  simp [join, text, String.toList_join, List.flatMap_map, List.flatMap_assoc]

theorem text_inBrackets (snippet : Snippet) :
    snippet.inBrackets.text = "(" ++ snippet.text ++ ")" := by
  rw [inBrackets, text_join]
  simp [String.join_cons, String.append_assoc]

theorem separate_cons_of_ne_nil {fragments : List String} {rest : List (List String)}
    (h : rest ≠ []) :
    separate separator (fragments :: rest) = fragments ++ separator :: separate separator rest :=
  separate.eq_3 separator fragments rest h

/-- Fragment lists with a separator between them have their texts with the separator between them. -/
theorem join_separate (separator : String) (lists : List (List String)) :
    String.join (separate separator lists) =
      String.intercalate separator (lists.map String.join) := by
  induction lists using separate.induct with
  | case1 => rfl
  | case2 fragments => simp [separate]
  | case3 fragments rest hrest ih =>
    have hne : rest.map String.join ≠ [] := by simpa using hrest
    rw [separate_cons_of_ne_nil hrest, String.join_append, String.join_cons, ih, List.map_cons,
      String.intercalate_cons_of_ne_nil hne, String.append_assoc]

/-- **The text of separated snippets** has the separator between the texts of the snippets that are
not empty. -/
theorem text_separated (separator : String) (snippets : List Snippet) :
    (separated separator snippets).text =
      String.intercalate separator ((snippets.filter (!·.isEmpty)).map text) := by
  have hfilter : (snippets.map fragments).filter (!·.isEmpty) =
      (snippets.filter (!·.isEmpty)).map fragments := List.filter_map
  rw [separated, text, join_separate, hfilter, List.map_map]
  rfl

/-! ### Empty texts -/

theorem join_eq_empty_iff {texts : List String} :
    String.join texts = "" ↔ ∀ text ∈ texts, text = "" := by
  simp only [← String.toList_eq_nil_iff, String.toList_join, List.flatMap_eq_nil_iff]

/-- A separator does not stand for itself. -/
theorem intercalate_eq_empty_iff {texts : List String} (h : ∀ text ∈ texts, text ≠ "") :
    String.intercalate separator texts = "" ↔ texts = [] := by
  refine ⟨fun hempty => ?_, fun hnil => by rw [hnil, String.intercalate_nil]⟩
  cases texts with
  | nil => rfl
  | cons first rest =>
    have hfirst : first ≠ "" := h first List.mem_cons_self
    cases rest with
    | nil => exact absurd (String.intercalate_singleton.symm.trans hempty) hfirst
    | cons second rest =>
      rw [String.intercalate_cons_cons, String.append_assoc, String.append_eq_empty_iff] at hempty
      exact absurd hempty.1 hfirst

/-! ### Empty snippets -/

theorem isEmpty_iff : snippet.isEmpty = true ↔ snippet.fragments = [] :=
  List.isEmpty_iff

theorem isEmpty_join_iff :
    (join snippets).isEmpty = true ↔ ∀ snippet ∈ snippets, snippet.isEmpty = true := by
  simp only [isEmpty_iff, join, List.flatMap_eq_nil_iff]

/-- Lists of which each has fragments have none together only if there are no lists. -/
theorem separate_eq_nil_iff {lists : List (List String)} (h : [] ∉ lists) :
    separate separator lists = [] ↔ lists = [] := by
  refine ⟨fun hnil => ?_, fun hnil => by rw [hnil, separate]⟩
  cases lists using separate.fun_cases with
  | case1 => rfl
  | case2 fragments =>
    rw [separate] at hnil
    exact absurd (hnil ▸ List.mem_cons_self) h
  | case3 fragments rest hrest =>
    rw [separate_cons_of_ne_nil hrest] at hnil
    exact absurd hnil (List.append_ne_nil_of_right_ne_nil _ (List.cons_ne_nil _ _))

/-- The fragment lists that a separator comes between. -/
def contents (snippets : List Snippet) : List (List String) :=
  (snippets.map fragments).filter (!·.isEmpty)

theorem fragments_separated (separator : String) (snippets : List Snippet) :
    (separated separator snippets).fragments = separate separator (contents snippets) :=
  rfl

theorem nil_notMem_contents (snippets : List Snippet) : [] ∉ contents snippets := by
  simp [contents]

theorem contents_eq_nil_iff :
    contents snippets = [] ↔ ∀ snippet ∈ snippets, snippet.isEmpty = true := by
  simp [contents, List.filter_eq_nil_iff, Snippet.isEmpty]

theorem contents_append (first second : List Snippet) :
    contents (first ++ second) = contents first ++ contents second := by
  simp [contents]

theorem contents_cons_of_isEmpty (h : snippet.isEmpty = true) :
    contents (snippet :: snippets) = contents snippets := by
  rw [Snippet.isEmpty] at h
  simp [contents, h]

theorem contents_cons_of_not_isEmpty (h : snippet.isEmpty = false) :
    contents (snippet :: snippets) = snippet.fragments :: contents snippets := by
  rw [Snippet.isEmpty] at h
  simp [contents, h]

theorem isEmpty_separated_iff :
    (separated separator snippets).isEmpty = true ↔
      ∀ snippet ∈ snippets, snippet.isEmpty = true := by
  rw [isEmpty_iff, fragments_separated, separate_eq_nil_iff (nil_notMem_contents snippets),
    contents_eq_nil_iff]

/-- A snippet is empty exactly if its text is. -/
def TellsEmptiness (snippet : Snippet) : Prop :=
  snippet.isEmpty = true ↔ snippet.text = ""

theorem tellsEmptiness_ofText (value : String) : (ofText value).TellsEmptiness := by
  rw [TellsEmptiness, text_ofText, ofText]
  split
  · rename_i hempty
    exact iff_of_true rfl (String.isEmpty_iff.mp hempty)
  · rename_i hne
    exact iff_of_false Bool.false_ne_true (mt String.isEmpty_iff.mpr hne)

theorem tellsEmptiness_join (h : ∀ snippet ∈ snippets, snippet.TellsEmptiness) :
    (join snippets).TellsEmptiness := by
  rw [TellsEmptiness, isEmpty_join_iff, text_join, join_eq_empty_iff, List.forall_mem_map]
  exact forall₂_congr h

/-- Where emptiness is told by the text, the texts of the snippets that are not empty are the texts
that are not. -/
theorem filter_isEmpty_map_text (h : ∀ snippet ∈ snippets, snippet.TellsEmptiness) :
    (snippets.filter (!·.isEmpty)).map text = (snippets.map text).filter (· ≠ "") := by
  rw [List.filter_map]
  refine congrArg (List.map text) (List.filter_congr fun snippet hmem => ?_)
  have htells : snippet.isEmpty = true ↔ snippet.text = "" := h snippet hmem
  simp [← htells]

theorem tellsEmptiness_separated (h : ∀ snippet ∈ snippets, snippet.TellsEmptiness) :
    (separated separator snippets).TellsEmptiness := by
  have htexts : ∀ written ∈ (snippets.map text).filter (· ≠ ""), written ≠ "" :=
    fun written hmem => of_decide_eq_true (List.mem_filter.mp hmem).2
  rw [TellsEmptiness, isEmpty_separated_iff, text_separated, filter_isEmpty_map_text h,
    intercalate_eq_empty_iff htexts, List.filter_eq_nil_iff, List.forall_mem_map]
  refine forall₂_congr fun snippet hmem => ?_
  have htells : snippet.isEmpty = true ↔ snippet.text = "" := h snippet hmem
  simp [htells]

/-- A snippet that was made by the operations. -/
inductive IsMade : Snippet → Prop
  | empty : IsMade empty
  | ofText (value : String) : IsMade (ofText value)
  | stringLiteral (value : String) : IsMade (stringLiteral value)
  | boolLiteral (value : Bool) : IsMade (boolLiteral value)
  | join {snippets : List Snippet} (h : ∀ snippet ∈ snippets, IsMade snippet) :
      IsMade (join snippets)
  | separated (separator : String) {snippets : List Snippet}
      (h : ∀ snippet ∈ snippets, IsMade snippet) : IsMade (separated separator snippets)
  | commaSeparated {snippets : List Snippet} (h : ∀ snippet ∈ snippets, IsMade snippet) :
      IsMade (commaSeparated snippets)
  | inBrackets {snippet : Snippet} (h : IsMade snippet) : IsMade snippet.inBrackets
  | assignment {name value : Snippet} (hname : IsMade name) (hvalue : IsMade value) :
      IsMade (assignment name value)

/-- **A snippet that was made by the operations is empty exactly if its text is.** -/
theorem IsMade.tellsEmptiness (h : IsMade snippet) : snippet.TellsEmptiness := by
  induction h with
  | empty => exact tellsEmptiness_ofText ""
  | ofText value => exact tellsEmptiness_ofText value
  | stringLiteral value => exact tellsEmptiness_ofText _
  | boolLiteral value => exact tellsEmptiness_ofText _
  | join _ ih => exact tellsEmptiness_join ih
  | separated separator _ ih => exact tellsEmptiness_separated ih
  | commaSeparated _ ih => exact tellsEmptiness_separated ih
  | inBrackets _ ih =>
    refine tellsEmptiness_join ?_
    simp [ih, tellsEmptiness_ofText]
  | assignment _ _ ihname ihvalue =>
    refine tellsEmptiness_join ?_
    simp [ihname, ihvalue, tellsEmptiness_ofText]

/-! ### Groups -/

section Groups

variable {group after : List (List String)}

/-- What stands in front of the first fragments stays in front. -/
theorem separate_append_cons (fragments other : List String) (after : List (List String)) :
    separate separator ((fragments ++ other) :: after) =
      fragments ++ separate separator (other :: after) := by
  cases after with
  | nil => rfl
  | cons next rest =>
    rw [separate_cons_of_ne_nil (List.cons_ne_nil _ _),
      separate_cons_of_ne_nil (List.cons_ne_nil _ _), List.append_assoc]

/-- A group at the beginning can be taken apart. -/
theorem separate_group_append (hgroup : group ≠ []) :
    separate separator (separate separator group :: after) =
      separate separator (group ++ after) := by
  induction group using separate.induct with
  | case1 => exact absurd rfl hgroup
  | case2 fragments => rfl
  | case3 fragments rest hrest ih =>
    have hrest : rest ≠ [] := hrest
    have hboth : rest ++ after ≠ [] := List.append_ne_nil_of_left_ne_nil hrest after
    rw [separate_cons_of_ne_nil hrest, List.append_cons, separate_append_cons, ih hrest,
      List.cons_append, separate_cons_of_ne_nil hboth, ← List.append_cons]

/-- **A group can be taken apart wherever it stands**, if there is something in it. -/
theorem separate_group (before : List (List String)) (hgroup : group ≠ []) :
    separate separator (before ++ separate separator group :: after) =
      separate separator (before ++ group ++ after) := by
  induction before with
  | nil => exact separate_group_append hgroup
  | cons fragments rest ih =>
    have hgrouped : rest ++ separate separator group :: after ≠ [] := by simp
    have happart : rest ++ group ++ after ≠ [] := by simp [hgroup]
    rw [List.cons_append, List.cons_append, List.cons_append, separate_cons_of_ne_nil hgrouped,
      separate_cons_of_ne_nil happart, ih]

/-- Groups can be taken apart one after the other. -/
theorem separate_contents_map_separated (before : List (List String))
    (groups : List (List Snippet)) :
    separate separator (before ++ contents (groups.map (separated separator))) =
      separate separator (before ++ contents groups.flatten) := by
  induction groups generalizing before with
  | nil => rfl
  | cons group rest ih =>
    rw [List.map_cons, List.flatten_cons, contents_append]
    by_cases hgroup : contents group = []
    · have hempty : (separated separator group).isEmpty = true :=
        isEmpty_separated_iff.mpr (contents_eq_nil_iff.mp hgroup)
      rw [contents_cons_of_isEmpty hempty, hgroup, List.nil_append, ih]
    · have hkept : (separated separator group).isEmpty = false :=
        Bool.eq_false_iff.mpr fun hempty =>
          hgroup (contents_eq_nil_iff.mpr (isEmpty_separated_iff.mp hempty))
      rw [contents_cons_of_not_isEmpty hkept, fragments_separated, separate_group before hgroup, ih,
        List.append_assoc]

/-- **Separated snippets that are separated once more are one separated list.** -/
theorem separated_map_separated (separator : String) (groups : List (List Snippet)) :
    separated separator (groups.map (separated separator)) = separated separator groups.flatten :=
  congrArg Snippet.mk (separate_contents_map_separated [] groups)

end Groups

/-- **Fragments and text agree.** A snippet that was made by the operations is empty exactly if its
text is. The text of joined snippets is their texts one after the other. The text of separated
snippets is the texts among theirs that are not empty, with the separator between any two neighbours
and nowhere else, also where the separator is itself an empty text. And snippets that are separated
in groups, with the groups separated again, have the same fragments as without the groups. -/
theorem fragments_agree_with_text :
    (∀ snippet, IsMade snippet → (snippet.isEmpty = true ↔ snippet.text = "")) ∧
    (∀ snippets, (join snippets).text = String.join (snippets.map text)) ∧
    (∀ separator snippets, (∀ snippet ∈ snippets, IsMade snippet) →
      (separated separator snippets).text =
        String.intercalate separator ((snippets.map text).filter (· ≠ ""))) ∧
    ∀ (separator : String) (groups : List (List Snippet)),
      (separated separator (groups.map (separated separator))).fragments =
        (separated separator groups.flatten).fragments := by
  refine ⟨fun snippet => IsMade.tellsEmptiness, text_join, ?_, fun separator groups => ?_⟩
  · intro separator snippets hmade
    have htells : ∀ snippet ∈ snippets, snippet.TellsEmptiness :=
      fun snippet hmem => (hmade snippet hmem).tellsEmptiness
    rw [text_separated, filter_isEmpty_map_text htells]
  · rw [separated_map_separated]

/-- A separator without text, and snippets that are empty in two ways, at an end and in a run. -/
theorem fragments_agree_with_text_items :
    let nothing := separated ", " [empty, join []]
    let items := [nothing, ofText "a", nothing, empty, (stringLiteral "b").inBrackets]
    (nothing.isEmpty = true ↔ nothing.text = "") ∧
      (separated "" items).text = "a(\"b\")" ∧
      (separated ", " items).text = "a, (\"b\")" := by
  intro nothing items
  have hnothing : IsMade nothing := by
    refine .separated ", " (List.forall_mem_cons.mpr ⟨.empty, List.forall_mem_singleton.mpr ?_⟩)
    exact .join (List.forall_mem_nil _)
  have hitems : ∀ snippet ∈ items, IsMade snippet := by
    simp only [items, List.forall_mem_cons]
    exact ⟨hnothing, .ofText "a", hnothing, .empty, .inBrackets (.stringLiteral "b"),
      List.forall_mem_nil _⟩
  obtain ⟨hempty, -, htext, -⟩ := fragments_agree_with_text
  exact ⟨hempty nothing hnothing, (htext "" items hitems).trans (by decide),
    (htext ", " items hitems).trans (by decide)⟩

end Nomenclator.Snippet
