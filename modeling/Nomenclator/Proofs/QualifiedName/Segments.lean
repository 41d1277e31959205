import Nomenclator.Proofs.Identifier.Path
import Nomenclator.Proofs.Text.Casing
import Nomenclator.QualifiedName

/-!
# Qualified names are their segments

A name is validated by its segments, but it is cut at a place that is counted in bytes. The last dot
is the only thing that both views share. In front of it stand whole characters and it is one byte
itself, so both places of the cut are between characters (`isComposedOf_of_dotted`), and what stands
on both sides is what the segments say (`isComposedOf`).

A member is named by appending a dot and any text, and this joins two lists of segments
(`segments_append_dot`). So the result is a name whenever the text is one, however many segments it
has.
-/

namespace Nomenclator

namespace Text

variable {c : Char} {text head tail : List Char}

/-- A character that occurs has a last occurrence. -/
theorem exists_last_occurrence (h : c ∈ text) :
    ∃ head tail, text = head ++ c :: tail ∧ c ∉ tail := by
  obtain ⟨head, d, tail, htext, hd, htail⟩ :=
    exists_last_of_exists (p := (· == c)) ⟨c, h, beq_self_eq_true c⟩
  rw [beq_iff_eq] at hd
  refine ⟨head, tail, hd ▸ htext, fun hmem => ?_⟩
  simpa using htail c hmem

theorem lastByteOf?_of_notMem (h : c ∉ text) : lastByteOf? c text = none := by
  induction text with
  | nil => rfl
  | cons d rest ih =>
    obtain ⟨hne, hrest⟩ := not_or.mp (mt List.mem_cons.mpr h)
    rw [lastByteOf?, ih hrest]
    exact if_neg (Ne.symm hne)

/-- The place of the last occurrence is the number of bytes in front of it. -/
theorem lastByteOf?_append_cons (h : c ∉ tail) :
    lastByteOf? c (head ++ c :: tail) = some (head.map Char.utf8Size).sum := by
  induction head with
  | nil =>
    rw [List.nil_append, lastByteOf?, lastByteOf?_of_notMem h]
    exact if_pos rfl
  | cons d rest ih =>
    rw [List.cons_append, lastByteOf?, ih]
    rfl

end Text

namespace DottedName

variable {name outer last : String}

/-- **A dot joins the segments on both sides.** -/
theorem segments_append_dot (outer last : String) :
    segments (outer ++ "." ++ last) = segments outer ++ segments last := by
  have hlist : (outer ++ "." ++ last).toList = outer.toList ++ '.' :: last.toList := by
    simp
  have hsplit := List.splitOnP_append_cons (p := (· == '.')) outer.toList last.toList
    (beq_self_eq_true '.')
  rw [segments, hlist, List.splitOn_eq_splitOnP, hsplit, List.map_append]
  simp only [segments, List.splitOn_eq_splitOnP]

theorem segments_of_notMem (h : '.' ∉ name.toList) : segments name = [name] := by
  have hjoined : ofSegments [name] = name := String.intercalate_singleton
  have hsegments : segments (ofSegments [name]) = [name] :=
    segments_ofSegments (by simpa using h) (by simp)
  rwa [hjoined] at hsegments

theorem empty_mem_segments_empty : "" ∈ segments "" := by
  decide

/-- Where the last segment of a name begins. -/
inductive LastSegment (name : String) : Prop
  | whole (h : '.' ∉ name.toList)
  | dotted (outer last : String) (hname : name = outer ++ "." ++ last) (hlast : '.' ∉ last.toList)

theorem lastSegment (name : String) : LastSegment name := by
  by_cases hdot : '.' ∈ name.toList
  · obtain ⟨head, tail, hlist, htail⟩ := Text.exists_last_occurrence hdot
    refine .dotted (String.ofList head) (String.ofList tail) ?_ (by simpa using htail)
    rw [← String.toList_inj, hlist]
    simp
  · exact .whole hdot

theorem simpleStart_of_notMem (h : '.' ∉ name.toList) : simpleStart name = 0 := by
  rw [simpleStart, Text.lastByteOf?_of_notMem h]

theorem simpleStart_append_dot (h : '.' ∉ last.toList) :
    simpleStart (outer ++ "." ++ last) = (outer.toList.map Char.utf8Size).sum + 1 := by
  have hlist : (outer ++ "." ++ last).toList = outer.toList ++ '.' :: last.toList := by
    simp
  rw [simpleStart, hlist, Text.lastByteOf?_append_cons h]

end DottedName

namespace QualifiedName

open DottedName (LastSegment empty_mem_segments_empty lastSegment ofSegments ofSegments_segments
  segments segments_append_dot segments_ne_nil segments_of_notMem simpleStart_append_dot
  simpleStart_of_notMem)
open Text (splitAtByte? splitAtByte?_eq_some_iff utf8Bytes)

variable {text member : String} {name other : QualifiedName}

/-! ### Reading -/

/-- **A text is a name exactly if none of its segments is empty.** -/
theorem exists_parse_eq_ok_iff : (∃ name, parse text = .ok name) ↔ "" ∉ segments text := by
  constructor
  · rintro ⟨name, hparse⟩ hmem
    rw [← spelling_of_parse hparse] at hmem
    exact name.segments_ne_empty "" hmem rfl
  · intro hsegments
    have hne : text ≠ "" := by
      rintro rfl
      exact hsegments empty_mem_segments_empty
    have hall : ∀ segment ∈ segments text, segment ≠ "" := by
      rintro segment hmem rfl
      exact hsegments hmem
    rw [parse, if_neg hne, dif_pos hall]
    exact ⟨_, rfl⟩

theorem parse_eq_empty_iff : parse text = .error .empty ↔ text = "" := by
  rw [parse]
  split
  · simpa
  · rename_i hne
    split <;> simpa using hne

theorem parse_eq_emptySegment_iff {spelling : String} :
    parse text = .error (.emptySegment spelling) ↔
      spelling = text ∧ text ≠ "" ∧ "" ∈ segments text := by
  rw [parse]
  split
  · rename_i hempty
    simp [hempty]
  · rename_i hne
    split
    · rename_i hall
      have hnot : "" ∉ segments text := fun hmem => hall "" hmem rfl
      simp [hnot]
    · rename_i hsome
      have hmem : "" ∈ segments text := by
        by_contra hnot
        exact hsome fun segment hsegment heq => hnot (heq ▸ hsegment)
      simp [hne, hmem, eq_comm]

theorem empty_notMem_segments (name : QualifiedName) : "" ∉ segments name.spelling :=
  fun hmem => name.segments_ne_empty "" hmem rfl

/-! ### The parts of a name -/

/-- A name has the given segments: its simple name is the last one, and its package consists of the
others, if there are any, and is a name again. Both are cut out between characters. -/
structure IsComposedOf (name : QualifiedName) (parts : List String) : Prop where
  segments_eq : segments name.spelling = parts
  getLast?_eq : parts.getLast? = some name.simpleName
  package?_eq : name.package? = if parts.length = 1 then none else some (ofSegments parts.dropLast)
  parses : ∀ package ∈ name.package?, ∃ outer, parse package = .ok outer
  isSome_cut : ∀ place ∈ [name.simpleStart, name.simpleStart - 1],
    (splitAtByte? place name.spelling.toList).isSome = true

/-- A name without a dot is its own simple name. -/
theorem isComposedOf_of_notMem (h : '.' ∉ name.spelling.toList) :
    name.IsComposedOf [name.spelling] := by
  have hstart : name.simpleStart = 0 := name.simpleStart_eq.trans (simpleStart_of_notMem h)
  have hsimple : name.simpleName = name.spelling := by
    have hcut := Text.fromByte_of_eq (List.nil_append name.spelling.toList).symm
    rw [simpleName, hstart]
    rwa [String.ofList_toList] at hcut
  have hpackage : name.package? = none := by
    rw [package?, if_pos hstart]
  refine ⟨segments_of_notMem h, by rw [hsimple]; rfl, hpackage, ?_, ?_⟩
  · rw [hpackage]
    intro package hmem
    cases hmem
  · rw [hstart]
    simp [splitAtByte?]

/-- What stands on both sides of the last dot. -/
theorem simpleName_package?_of_dotted {outer last : String}
    (hname : name.spelling = outer ++ "." ++ last) (hlast : '.' ∉ last.toList) :
    name.simpleName = last ∧ name.package? = some outer ∧
      ∀ place ∈ [name.simpleStart, name.simpleStart - 1],
        (splitAtByte? place name.spelling.toList).isSome = true := by
  have hbefore : name.spelling.toList = outer.toList ++ '.' :: last.toList := by
    simp [hname]
  have hafter : name.spelling.toList = (outer.toList ++ ['.']) ++ last.toList := by
    simp [hname]
  have hdot : ((outer.toList ++ ['.']).map Char.utf8Size).sum =
      (outer.toList.map Char.utf8Size).sum + 1 := by
    rw [List.map_append, List.sum_append]
    rfl
  have hstart : name.simpleStart = (outer.toList.map Char.utf8Size).sum + 1 := by
    rw [name.simpleStart_eq, hname, simpleStart_append_dot hlast]
  refine ⟨?_, ?_, ?_⟩
  · rw [simpleName, hstart, ← hdot, Text.fromByte_of_eq hafter, String.ofList_toList]
  · rw [package?, hstart, if_neg (Nat.succ_ne_zero _), Nat.add_sub_cancel,
      Text.upToByte_of_eq hbefore, String.ofList_toList]
  · rw [hstart, Nat.add_sub_cancel]
    intro place hplace
    rcases List.mem_pair.mp hplace with rfl | rfl
    · rw [← hdot, splitAtByte?_eq_some_iff.mpr ⟨hafter, rfl⟩]
      rfl
    · rw [splitAtByte?_eq_some_iff.mpr ⟨hbefore, rfl⟩]
      rfl

/-- A name with a dot is cut at the last one. -/
theorem isComposedOf_of_dotted {outer last : String}
    (hname : name.spelling = outer ++ "." ++ last) (hlast : '.' ∉ last.toList) :
    name.IsComposedOf (segments outer ++ [last]) := by
  obtain ⟨hsimple, hpackage, hcut⟩ := simpleName_package?_of_dotted hname hlast
  have hsegments : segments name.spelling = segments outer ++ [last] := by
    rw [hname, segments_append_dot, segments_of_notMem hlast]
  have hlength : (segments outer ++ [last]).length ≠ 1 := by
    have hpos := List.length_pos_iff.mpr (segments_ne_nil outer)
    rw [List.length_append, List.length_singleton]
    omega
  refine ⟨hsegments, by rw [hsimple]; simp, ?_, ?_, hcut⟩
  · rw [hpackage, if_neg hlength, List.dropLast_concat, ofSegments_segments]
  · rw [hpackage]
    rintro package ⟨⟩
    refine exists_parse_eq_ok_iff.mpr fun hmem => name.empty_notMem_segments ?_
    rw [hsegments]
    exact List.mem_append_left _ hmem

/-- **A name is composed of its segments.** -/
theorem isComposedOf (name : QualifiedName) : name.IsComposedOf (segments name.spelling) := by
  cases lastSegment name.spelling with
  | whole h =>
    rw [segments_of_notMem h]
    exact isComposedOf_of_notMem h
  | dotted outer last hname hlast =>
    have hcomposed := isComposedOf_of_dotted hname hlast
    rwa [hcomposed.segments_eq]

/-- The simple name of a name is that of its spelling. -/
theorem simpleName_eq (name : QualifiedName) :
    name.simpleName = DottedName.simpleName name.spelling := by
  rw [DottedName.simpleName, List.getLastD_eq_getLast?, name.isComposedOf.getLast?_eq]
  rfl

/-! ### Members -/

/-- The text after the dot is added to the segments. -/
theorem segments_of_child {inner : QualifiedName} (h : name.child member = .ok inner) :
    segments inner.spelling = segments name.spelling ++ segments member := by
  rw [spelling_of_parse h, segments_append_dot]

theorem exists_child_eq_ok_iff :
    (∃ inner, name.child member = .ok inner) ↔ ∃ read, parse member = .ok read := by
  rw [child, exists_parse_eq_ok_iff, exists_parse_eq_ok_iff, segments_append_dot, List.mem_append,
    or_iff_right name.empty_notMem_segments]

/-- A member is refused because of an empty segment. -/
theorem child_eq_error_iff :
    name.child member = .error (.emptySegment (name.spelling ++ "." ++ member)) ↔
      "" ∈ segments member := by
  have hne : name.spelling ++ "." ++ member ≠ "" := by
    intro h
    simpa using congrArg String.toList h
  rw [child, parse_eq_emptySegment_iff, segments_append_dot, List.mem_append,
    or_iff_right name.empty_notMem_segments]
  simp [hne]

/-- **A member is directly inside a name exactly if its own name has no dot.** -/
theorem package?_eq_some_iff_of_child {inner : QualifiedName} (h : name.child member = .ok inner) :
    inner.package? = some name.spelling ↔ '.' ∉ member.toList := by
  have hspelling : inner.spelling = name.spelling ++ "." ++ member := spelling_of_parse h
  constructor
  · intro hpackage
    cases lastSegment member with
    | whole hmember => exact hmember
    | dotted outer last hmember hlast =>
      -- the package has the first part of the member in it too
      have houter : inner.spelling = name.spelling ++ "." ++ outer ++ "." ++ last := by
        rw [hspelling, hmember]
        simp only [String.append_assoc]
      rw [(simpleName_package?_of_dotted houter hlast).2.1, Option.some.injEq] at hpackage
      have hlength := congrArg String.length hpackage
      rw [String.length_append, String.length_append] at hlength
      have hdot : ".".length = 1 := rfl
      omega
  · exact fun hmember => (simpleName_package?_of_dotted hspelling hmember).2.1

/-! ### Order -/

/-- The place of the last segment never decides the order. -/
theorem compare_eq (name other : QualifiedName) :
    compare name other = compare name.spelling other.spelling := by
  have hcompare : compare name other = (compare name.spelling other.spelling).then
      (compare name.simpleStart other.simpleStart) := rfl
  rw [hcompare]
  cases hspelling : compare name.spelling other.spelling with
  | lt => rfl
  | gt => rfl
  | eq =>
    have heq : name = other := ext (compare_eq_iff_eq.mp hspelling)
    rw [heq]
    exact compare_eq_iff_eq.mpr rfl

theorem compare_eq_lt_iff :
    compare name other = .lt ↔ utf8Bytes name.spelling < utf8Bytes other.spelling := by
  rw [compare_eq, compare_lt_iff_lt, Text.lt_iff_utf8Bytes_lt]

/-- **Qualified names are exactly their segments.** A text is refused if it is empty or has an empty
segment, and otherwise it is read as the name that is spelled like it and composed of its segments.
A member of a name is a name exactly if its own name is one; it has the segments of both and is
directly inside the name if there was no dot in its own, and otherwise it is refused for an empty
segment. Names are equal, and are ordered byte by byte, like their spellings. -/
theorem names_are_their_segments (text member : String) (name other : QualifiedName) :
    (parse text = .error .empty ↔ text = "") ∧
    (parse text = .error (.emptySegment text) ↔ text ≠ "" ∧ "" ∈ segments text) ∧
    ((∃ read, parse text = .ok read ∧ read.spelling = text ∧ read.IsComposedOf (segments text) ∧
        read.simpleName = DottedName.simpleName text) ↔ text ≠ "" ∧ "" ∉ segments text) ∧
    ((∃ inner, name.child member = .ok inner ∧
        inner.IsComposedOf (segments name.spelling ++ segments member) ∧
        (inner.package? = some name.spelling ↔ '.' ∉ member.toList)) ↔
      ∃ read, parse member = .ok read) ∧
    (name.child member = .error (.emptySegment (name.spelling ++ "." ++ member)) ↔
      ¬∃ read, parse member = .ok read) ∧
    (compare name other = .lt ↔ utf8Bytes name.spelling < utf8Bytes other.spelling) ∧
    (compare name other = .gt ↔ utf8Bytes other.spelling < utf8Bytes name.spelling) ∧
    (compare name other = .eq ↔ name.spelling = other.spelling) ∧
    (name = other ↔ name.spelling = other.spelling) := by
  have hequal : name = other ↔ name.spelling = other.spelling := ⟨congrArg spelling, ext⟩
  refine ⟨parse_eq_empty_iff, ?_, ?_, ?_, ?_, compare_eq_lt_iff, ?_, ?_, hequal⟩
  · rw [parse_eq_emptySegment_iff]
    exact and_iff_right rfl
  · constructor
    · rintro ⟨read, hparse, -⟩
      have hsegments := exists_parse_eq_ok_iff.mp ⟨read, hparse⟩
      refine ⟨?_, hsegments⟩
      rintro rfl
      exact hsegments empty_mem_segments_empty
    · rintro ⟨-, hsegments⟩
      obtain ⟨read, hparse⟩ := exists_parse_eq_ok_iff.mpr hsegments
      have hspelling := spelling_of_parse hparse
      refine ⟨read, hparse, hspelling, ?_, ?_⟩
      · rw [← hspelling]
        exact read.isComposedOf
      · rw [← hspelling]
        exact read.simpleName_eq
  · rw [← exists_child_eq_ok_iff]
    constructor
    · rintro ⟨inner, hchild, -⟩
      exact ⟨inner, hchild⟩
    · rintro ⟨inner, hchild⟩
      refine ⟨inner, hchild, ?_, package?_eq_some_iff_of_child hchild⟩
      rw [← segments_of_child hchild]
      exact inner.isComposedOf
  · rw [child_eq_error_iff, exists_parse_eq_ok_iff, not_not]
  · rw [compare_eq, compare_gt_iff_gt, Text.lt_iff_utf8Bytes_lt]
  · rw [compare_eq, compare_eq_iff_eq]

end QualifiedName

end Nomenclator
