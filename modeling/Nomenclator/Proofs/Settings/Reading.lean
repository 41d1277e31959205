import Nomenclator.Proofs.Json.Reading
import Nomenclator.Settings.Encoding

/-!
# Settings read back

Settings read back from their written form. The well-known types are written as a table with an
entry for each of them, in ascending order, and the table that is read from it has the same entries.
-/

namespace Nomenclator

open Json (asString? asArray? asObject? required? defaulted?)

/-- A map is the one that is made of its entries. -/
theorem ofList_toList (map : Std.ExtTreeMap String String) :
    Std.ExtTreeMap.ofList map.toList = map := by
  ext1 key
  cases hvalue : map[key]? with
  | none =>
    refine Std.ExtTreeMap.getElem?_ofList_of_contains_eq_false ?_
    have habsent : key ∉ map := fun hmem => by
      rw [Std.ExtTreeMap.mem_iff_isSome_getElem?, hvalue] at hmem
      cases hmem
    rw [Std.ExtTreeMap.map_fst_toList_eq_keys, Bool.eq_false_iff, ne_eq, List.contains_iff_mem,
      Std.ExtTreeMap.mem_keys]
    exact habsent
  | some value =>
    exact Std.ExtTreeMap.getElem?_ofList_of_mem (Std.LawfulEqCmp.compare_eq_iff_eq.mpr rfl)
      Std.ExtTreeMap.distinct_keys_toList (Std.ExtTreeMap.mem_toList_iff_getElem?_eq_some.mpr hvalue)

theorem AnnotationClasses.ofJson?_toJson (classes : AnnotationClasses) :
    AnnotationClasses.ofJson? classes.toJson = some classes := by
  have hrecord : classes.toJson.isRecord fieldNames = true := rfl
  rw [AnnotationClasses.ofJson?, hrecord]
  simp [AnnotationClasses.toJson, defaulted?, asString?]

namespace Settings

theorem stringsOfJson?_strings (texts : List String) :
    stringsOfJson? (.array (texts.map .string)) = some texts :=
  mapM_map_eq_some fun _ _ => rfl

theorem stringTableOfJson?_table (table : Std.ExtTreeMap String String) :
    stringTableOfJson? (.object (table.toList.map fun entry => (entry.1, .string entry.2))) =
      some table := by
  -- the entries are read one by one, and make up the table again
  refine Option.bind_eq_some_iff.mpr ⟨table.toList, ?_, congrArg some (ofList_toList table)⟩
  exact mapM_map_eq_some fun _ _ => rfl

/-- **Settings read back from their written form.** -/
theorem ofJson?_toJson (settings : Settings) : ofJson? settings.toJson = some settings := by
  have hrecord : settings.toJson.isRecord fieldNames = true := rfl
  rw [ofJson?, hrecord]
  simp [toJson, required?, asString?, stringsOfJson?_strings, stringTableOfJson?_table,
    AnnotationClasses.ofJson?_toJson]

end Settings

end Nomenclator
