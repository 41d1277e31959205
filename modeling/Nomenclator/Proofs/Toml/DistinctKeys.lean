import Mathlib.Data.List.Nodup
import Nomenclator.Proofs.Text.Parser
import Nomenclator.Toml.Document

/-!
# Distinct keys

A document that is read has no table with a key twice, at any depth. A table changes by one entry at
a time, which takes the place of the entry of its key if there is one. So the change of a table at
the end of a path keeps the keys distinct on the whole way, and the changes of a document do, one
after another. The values in it have distinct keys as well, because a table in braces is built in
the same way.
-/

namespace Nomenclator.Toml

/-- No table in a value has a key twice. -/
inductive Value.HasDistinctKeys : Value → Prop
  | string (text : String) : HasDistinctKeys (.string text)
  | integer (value : Int) : HasDistinctKeys (.integer value)
  | float (literal : String) : HasDistinctKeys (.float literal)
  | boolean (value : Bool) : HasDistinctKeys (.boolean value)
  | dateTime (value : DateTime) : HasDistinctKeys (.dateTime value)
  | array {items : List Value} (hitems : ∀ item ∈ items, HasDistinctKeys item) :
      HasDistinctKeys (.array items)
  | table {origin : Origin} {entries : Entries} (hkeys : (entries.map Prod.fst).Nodup)
      (hvalues : ∀ entry ∈ entries, HasDistinctKeys entry.2) :
      HasDistinctKeys (.table origin entries)
  | tables {elements : List Entries}
      (hkeys : ∀ element ∈ elements, (element.map Prod.fst).Nodup)
      (hvalues : ∀ element ∈ elements, ∀ entry ∈ element, HasDistinctKeys entry.2) :
      HasDistinctKeys (.tables elements)

/-- Neither a table nor any table inside has a key twice. -/
structure Entries.HasDistinctKeys (entries : Entries) : Prop where
  keys : (entries.map Prod.fst).Nodup
  values : ∀ entry ∈ entries, entry.2.HasDistinctKeys

section Tables

variable {entries : Entries} {value : Value} {key : String}

namespace Value

@[simp]
theorem hasDistinctKeys_table {origin : Origin} :
    (table origin entries).HasDistinctKeys ↔ entries.HasDistinctKeys := by
  refine ⟨fun h => ?_, fun h => .table h.keys h.values⟩
  cases h with
  | table hkeys hvalues => exact ⟨hkeys, hvalues⟩

@[simp]
theorem hasDistinctKeys_tables {elements : List Entries} :
    (tables elements).HasDistinctKeys ↔ ∀ element ∈ elements, element.HasDistinctKeys := by
  refine ⟨fun h element hmem => ?_, fun h => .tables (fun element hmem => (h element hmem).keys)
    fun element hmem => (h element hmem).values⟩
  cases h with
  | tables hkeys hvalues => exact ⟨hkeys element hmem, hvalues element hmem⟩

end Value

namespace Entries

/-! ### Entries -/

theorem hasDistinctKeys_nil : HasDistinctKeys [] :=
  ⟨List.nodup_nil, fun _ hmem => nomatch hmem⟩

/-- What is found under a key is one of the entries. -/
theorem mem_of_find? (h : entries.find? key = some value) : (key, value) ∈ entries := by
  obtain ⟨before, after, rfl, -⟩ := List.lookup_eq_some_iff.mp h
  exact List.mem_append_right before List.mem_cons_self

theorem HasDistinctKeys.of_find? (h : entries.HasDistinctKeys)
    (hfind : entries.find? key = some value) : value.HasDistinctKeys :=
  h.values _ (mem_of_find? hfind)

/-- A key that is there keeps its place, and a new one comes last. -/
theorem keys_put (entries : Entries) (key : String) (value : Value) :
    (entries.put key value).map Prod.fst =
      if key ∈ entries.map Prod.fst then entries.map Prod.fst
      else entries.map Prod.fst ++ [key] := by
  induction entries with
  | nil => rfl
  | cons entry rest ih =>
    obtain ⟨name, old⟩ := entry
    rw [put]
    by_cases hname : name = key
    · simp [hname]
    · have hmem : key ∈ ((name, old) :: rest).map Prod.fst ↔ key ∈ rest.map Prod.fst :=
        List.mem_cons.trans (or_iff_right (Ne.symm hname))
      rw [if_neg hname, List.map_cons, ih, apply_ite (List.cons name)]
      exact if_congr hmem.symm rfl rfl

theorem mem_put {entry : String × Value} (h : entry ∈ entries.put key value) :
    entry ∈ entries ∨ entry = (key, value) := by
  induction entries with
  | nil => exact .inr (List.mem_singleton.mp h)
  | cons first rest ih =>
    rw [put] at h
    split at h
    · exact (List.mem_cons.mp h).elim .inr fun hrest => .inl (List.mem_cons_of_mem first hrest)
    · rcases List.mem_cons.mp h with rfl | hrest
      · exact .inl List.mem_cons_self
      · exact (ih hrest).imp_left (List.mem_cons_of_mem first)

theorem HasDistinctKeys.put (h : entries.HasDistinctKeys) (hvalue : value.HasDistinctKeys) :
    (entries.put key value).HasDistinctKeys where
  keys := by
    rw [keys_put]
    split
    · exact h.keys
    · rename_i hnew
      exact List.nodup_append.mpr ⟨h.keys, List.nodup_singleton key, fun name hmem other hother =>
        fun heq => hnew (List.mem_singleton.mp hother ▸ heq ▸ hmem)⟩
  values entry hmem := by
    rcases mem_put hmem with hold | rfl
    · exact h.values entry hold
    · exact hvalue

/-! ### Changes of a table -/

/-- A change of a table keeps the keys distinct. -/
def KeepsDistinctKeys (change : Entries → Option Entries) : Prop :=
  ∀ ⦃entries changed : Entries⦄,
    entries.HasDistinctKeys → change entries = some changed → changed.HasDistinctKeys

/-- Changes one after another keep the keys distinct when each of them does. -/
theorem KeepsDistinctKeys.foldlM {α : Type} {step : Entries → α → Option Entries} {parts : List α}
    (h : ∀ part ∈ parts, KeepsDistinctKeys (step · part)) :
    KeepsDistinctKeys fun entries => parts.foldlM step entries := by
  induction parts with
  | nil =>
    rintro entries changed hentries ⟨⟩
    exact hentries
  | cons part rest ih =>
    intro entries changed hentries hrun
    obtain ⟨hpart, hrest⟩ := List.forall_mem_cons.mp h
    dsimp only at hrun
    rw [List.foldlM_cons] at hrun
    obtain ⟨next, hstep, hlater⟩ := Option.bind_eq_some_iff.mp hrun
    exact ih hrest (hpart hentries hstep) hlater

/-- What keeps the keys distinct at the end of a path does so in the table where the path begins. -/
theorem KeepsDistinctKeys.descend {access : Access} {change : Origin → Entries → Option Entries}
    (h : ∀ origin, KeepsDistinctKeys (change origin)) (origin : Origin) (path : List String) :
    KeepsDistinctKeys fun entries => entries.descend access change origin path := by
  induction path generalizing origin with
  | nil => exact h origin
  | cons key rest ih =>
    intro entries changed hentries hrun
    dsimp only at hrun
    rw [Entries.descend] at hrun
    split at hrun
    · -- the table is not there yet
      obtain ⟨inner, hinner, heq⟩ := Option.bind_eq_some_iff.mp hrun
      obtain rfl := Option.some.inj heq
      exact hentries.put (Value.hasDistinctKeys_table.mpr (ih _ hasDistinctKeys_nil hinner))
    · -- a table is there
      rename_i inner content hfind
      have hcontent := Value.hasDistinctKeys_table.mp (hentries.of_find? hfind)
      split at hrun
      · obtain ⟨content', hchanged, heq⟩ := Option.bind_eq_some_iff.mp hrun
        obtain rfl := Option.some.inj heq
        exact hentries.put (Value.hasDistinctKeys_table.mpr (ih _ hcontent hchanged))
      · cases hrun
    · -- the last of several tables changes
      rename_i elements hfind
      have helements := Value.hasDistinctKeys_tables.mp (hentries.of_find? hfind)
      split at hrun
      · rename_i content hlast
        obtain ⟨content', hchanged, heq⟩ := Option.bind_eq_some_iff.mp hrun
        obtain rfl := Option.some.inj heq
        have hcontent := ih _ (helements content (List.mem_of_getLast? hlast)) hchanged
        have hinit : ∀ element ∈ elements.dropLast, HasDistinctKeys element :=
          fun element hmem => helements element (List.dropLast_subset elements hmem)
        exact hentries.put (Value.hasDistinctKeys_tables.mpr
          (List.forall_mem_append.mpr ⟨hinit, List.forall_mem_singleton.mpr hcontent⟩))
      · cases hrun
    · cases hrun

theorem keepsDistinctKeys_addPair? {path : List String} (h : value.HasDistinctKeys) :
    KeepsDistinctKeys (·.addPair? path value) := by
  intro entries changed hentries hrun
  dsimp only at hrun
  rw [addPair?] at hrun
  split at hrun
  · cases hrun
  · refine KeepsDistinctKeys.descend (fun origin content changed hcontent hadd => ?_) _ _ hentries
      hrun
    split at hadd
    · cases hadd
    · split at hadd
      · cases hadd
      · exact Option.some.inj hadd ▸ hcontent.put h

theorem keepsDistinctKeys_addPairs? {pairs : List (List String × Value)}
    (h : ∀ pair ∈ pairs, pair.2.HasDistinctKeys) : KeepsDistinctKeys (·.addPairs? pairs) :=
  KeepsDistinctKeys.foldlM fun pair hmem => keepsDistinctKeys_addPair? (h pair hmem)

end Entries

/-! ### Sections -/

/-- The values below a header have distinct keys. -/
def Section.HasDistinctKeys (part : Section) : Prop :=
  ∀ pair ∈ part.pairs, pair.2.HasDistinctKeys

theorem Section.HasDistinctKeys.entry? {part : Section} (h : part.HasDistinctKeys)
    {old? : Option Value} (hold : ∀ old ∈ old?, old.HasDistinctKeys)
    (hentry : part.entry? old? = some value) : value.HasDistinctKeys := by
  have hadd := Entries.keepsDistinctKeys_addPairs? h
  rw [Section.entry?.eq_def] at hentry
  split at hentry
  · obtain ⟨content, hcontent, heq⟩ := Option.bind_eq_some_iff.mp hentry
    have hnew := hadd Entries.hasDistinctKeys_nil hcontent
    obtain rfl := Option.some.inj heq
    split
    · exact Value.hasDistinctKeys_tables.mpr (List.forall_mem_singleton.mpr hnew)
    · exact Value.hasDistinctKeys_table.mpr hnew
  · rename_i elements
    split at hentry
    · obtain ⟨content, hcontent, heq⟩ := Option.bind_eq_some_iff.mp hentry
      have hnew := hadd Entries.hasDistinctKeys_nil hcontent
      obtain rfl := Option.some.inj heq
      have helements := Value.hasDistinctKeys_tables.mp (hold _ rfl)
      exact Value.hasDistinctKeys_tables.mpr
        (List.forall_mem_append.mpr ⟨helements, List.forall_mem_singleton.mpr hnew⟩)
    · cases hentry
  · rename_i implied
    split at hentry
    · cases hentry
    · obtain ⟨content, hcontent, heq⟩ := Option.bind_eq_some_iff.mp hentry
      obtain rfl := Option.some.inj heq
      exact Value.hasDistinctKeys_table.mpr
        (hadd (Value.hasDistinctKeys_table.mp (hold _ rfl)) hcontent)
  · cases hentry

namespace Entries

theorem keepsDistinctKeys_addSection? {part : Section} (h : part.HasDistinctKeys) :
    KeepsDistinctKeys (·.addSection? part) := by
  intro document changed hdocument hrun
  dsimp only at hrun
  rw [addSection?] at hrun
  split at hrun
  · cases hrun
  · refine KeepsDistinctKeys.descend (fun origin content changed hcontent hadd => ?_) _ _ hdocument
      hrun
    obtain ⟨entry, hentry, heq⟩ := Option.bind_eq_some_iff.mp hadd
    have hnew := h.entry? (fun old hold => hcontent.of_find? hold) hentry
    exact Option.some.inj heq ▸ hcontent.put hnew

theorem HasDistinctKeys.of_ofSections? {pairs : List (List String × Value)}
    {sections : List Section} (hpairs : ∀ pair ∈ pairs, pair.2.HasDistinctKeys)
    (hsections : ∀ part ∈ sections, part.HasDistinctKeys)
    (h : ofSections? pairs sections = some entries) : entries.HasDistinctKeys := by
  obtain ⟨document, hdocument, hrun⟩ := Option.bind_eq_some_iff.mp h
  have hstart := keepsDistinctKeys_addPairs? hpairs hasDistinctKeys_nil hdocument
  exact KeepsDistinctKeys.foldlM
    (fun part hmem => keepsDistinctKeys_addSection? (hsections part hmem)) hstart hrun

end Entries

end Tables

/-! ### Values -/

open Text Parser

theorem gives_scalar : Gives Value.HasDistinctKeys scalar :=
  ((gives_true string).map fun text _ => .string text).orElse <|
  ((gives_true dateTime).map fun value _ => .dateTime value).orElse <|
  ((gives_true float).map fun literal _ => .float literal).orElse <|
  ((gives_true integer).map fun value _ => .integer value).orElse <|
  (gives_bind fun _ => gives_pure (.boolean true)).orElse <|
  gives_bind fun _ => gives_pure (.boolean false)

section Items

variable {item : Parser Value}

theorem gives_array (h : Gives Value.HasDistinctKeys item) :
    Gives Value.HasDistinctKeys (array item) := by
  refine gives_bind fun _ => gives_bind fun _ => h.seqRight.seqLeft.separatedBy.optional.bind
    fun items? hitems => ?_
  have hvalue : (Value.array (items?.getD [])).HasDistinctKeys := by
    cases items? with
    | none => exact .array fun _ hmem => nomatch hmem
    | some items => exact .array (hitems items rfl)
  have hend : Gives Value.HasDistinctKeys (do
      gap
      char ']'
      return .array (items?.getD [])) :=
    gives_bind fun _ => gives_bind fun _ => gives_pure hvalue
  dsimp only
  split
  · exact gives_bind fun _ => hend
  · exact hend

theorem gives_pair (h : Gives Value.HasDistinctKeys item) :
    Gives (fun pair => pair.2.HasDistinctKeys) (pair item) :=
  gives_bind fun _ => gives_bind fun _ => gives_bind fun _ => h.bind fun _ hvalue =>
    gives_pure hvalue

theorem gives_bracesTable (h : Gives Value.HasDistinctKeys item) :
    Gives Value.HasDistinctKeys (bracesTable item) := by
  refine gives_bind fun _ => gives_bind fun _ => (gives_pair h).seqLeft.separatedBy.optional.bind
    fun pairs? hpairs => gives_bind fun _ => ?_
  have hpairs : ∀ pair ∈ pairs?.getD [], pair.2.HasDistinctKeys := by
    cases pairs? with
    | none => exact fun _ hmem => nomatch hmem
    | some pairs => exact hpairs pairs rfl
  refine (gives_ofOption fun entries hentries => ?_).bind fun entries hentries =>
    gives_pure (Value.hasDistinctKeys_table.mpr hentries)
  exact Entries.keepsDistinctKeys_addPairs? hpairs Entries.hasDistinctKeys_nil hentries

end Items

theorem gives_value (levels : Nat) : Gives Value.HasDistinctKeys (value levels) := by
  induction levels with
  | zero => exact gives_scalar
  | succ levels ih => exact gives_scalar.orElse ((gives_array ih).orElse (gives_bracesTable ih))

/-! ### Lines -/

/-- The value of a line has distinct keys. -/
def Line.HasDistinctKeys : Line → Prop
  | .pair _ value => value.HasDistinctKeys
  | .header _ _ => True

theorem gives_lines : Gives (fun lines => ∀ line ∈ lines, line.HasDistinctKeys) lines := by
  have hheader : Gives Line.HasDistinctKeys headerLine :=
    .orElse (gives_bind fun _ => gives_bind fun _ => gives_bind fun _ => gives_pure trivial)
      (gives_bind fun _ => gives_bind fun _ => gives_bind fun _ => gives_pure trivial)
  have hpair : Gives Line.HasDistinctKeys pairLine :=
    (gives_pair (gives_value _)).bind fun _ hvalue => gives_pure hvalue
  have hline : Gives (fun line? => ∀ line ∈ line?, Line.HasDistinctKeys line) line := by
    refine gives_bind fun _ => .orElse (gives_bind fun _ => gives_pure ?_) (.orElse
      (gives_bind fun _ => gives_bind fun _ => gives_pure ?_)
      ((hheader.orElse hpair).bind fun line hline => gives_bind fun _ => gives_pure ?_))
    · exact fun _ hmem => nomatch hmem
    · exact fun _ hmem => nomatch hmem
    · exact fun _ hmem => Option.some.inj hmem ▸ hline
  refine gives_bind fun _ => hline.many.bind fun lines hlines => gives_bind fun _ =>
    gives_bind fun _ => gives_pure fun line hmem => ?_
  obtain ⟨line?, hline?, heq⟩ := List.mem_filterMap.mp hmem
  exact hlines line? hline? line heq

/-- The values of the sections are those of the lines. -/
theorem sections_hasDistinctKeys {lines : List Line}
    (h : ∀ line ∈ lines, line.HasDistinctKeys) :
    (∀ pair ∈ (sections lines).1, pair.2.HasDistinctKeys) ∧
      ∀ part ∈ (sections lines).2, part.HasDistinctKeys := by
  induction lines with
  | nil => exact ⟨List.forall_mem_nil _, List.forall_mem_nil _⟩
  | cons line rest ih =>
    obtain ⟨hfirst, hrest⟩ := List.forall_mem_cons.mp h
    obtain ⟨hpairs, hparts⟩ := ih hrest
    cases line with
    | pair path value => exact ⟨List.forall_mem_cons.mpr ⟨hfirst, hpairs⟩, hparts⟩
    | header path isElement =>
      exact ⟨List.forall_mem_nil _, List.forall_mem_cons.mpr ⟨hpairs, hparts⟩⟩

/-- **No table of a document that is read has a key twice.** -/
theorem read?_hasDistinctKeys {text : String} {document : Entries}
    (h : read? text = some document) : document.HasDistinctKeys := by
  obtain ⟨lines, hlines, hdocument⟩ := Option.bind_eq_some_iff.mp h
  obtain ⟨hpairs, hparts⟩ := sections_hasDistinctKeys (gives_lines.readAll? hlines)
  exact Entries.HasDistinctKeys.of_ofSections? hpairs hparts hdocument

end Nomenclator.Toml
