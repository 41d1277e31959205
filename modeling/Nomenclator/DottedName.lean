import Nomenclator.Text.Bytes
import Nomenclator.Text.Replace

/-!
# Dotted names

A dotted name is any text, read as segments with dots between them. Nothing is required of the
segments: an empty text has one empty segment. Names that come from outside are kept in this form,
and `QualifiedName` adds the requirement that no segment is empty.
-/

namespace Nomenclator.DottedName

/-- The segments of a name, in order. There is always at least one. -/
def segments (name : String) : List String :=
  (name.toList.splitOn '.').map String.ofList

/-- The name with the given segments. -/
def ofSegments (segments : List String) : String :=
  String.intercalate "." segments

/-- The last segment of a name; the whole name when it has no dot. -/
def simpleName (name : String) : String :=
  (segments name).getLastD name

/-- The place of the last segment in bytes: right after the last dot, which is one byte. -/
def simpleStart (name : String) : Nat :=
  match Text.lastByteOf? '.' name.toList with
  | some dot => dot + 1
  | none => 0

/-- A single identifier for a whole path: underscores are doubled, and then dots become underscores.
Different paths may share it, since `a._b` and `a_.b` both give `a___b`. -/
def underscored (name : String) : String :=
  Text.replaceChar '.' "_" (Text.replaceChar '_' "__" name)

theorem segments_ne_nil (name : String) : segments name ≠ [] := by
  simp [segments]

theorem ofSegments_segments (name : String) : ofSegments (segments name) = name := by
  rw [← String.toList_inj]
  simp [ofSegments, segments, String.toList_intercalate, Function.comp_def,
    List.intercalate_splitOn]

end Nomenclator.DottedName
