import Mathlib
import Nomenclator.Json

/-!
# Reading the parts of a JSON value

A reader looks up fields by name, or by their place if the record is an array, and items in order.
There is one lemma for each way of reading: what a field is in a record that is written out, when a
field of each kind reads as a value, and what becomes of the items of a list. Readers of records
need no more than these.
-/

namespace Nomenclator

/-! ### Items -/

/-- Items read as a list of values when they read one by one as these values. -/
theorem mapM_eq_some_iff {α β : Type} {read? : α → Option β} {items : List α} {values : List β} :
    items.mapM read? = some values ↔ items.map read? = values.map some := by
  induction items generalizing values with
  | nil => cases values <;> simp
  | cons first rest ih =>
    rw [List.mapM_cons]
    cases values with
    | nil => simp [Option.bind_eq_some_iff]
    | cons value values => simp [Option.bind_eq_some_iff, ih]

section Items

variable {α β : Type} {read? : α → Option β} {items : List α} {values : List β}

/-- Every item has been read. -/
theorem exists_value_of_mapM (h : items.mapM read? = some values) {item : α} (hitem : item ∈ items) :
    ∃ value ∈ values, read? item = some value := by
  have hmem : read? item ∈ values.map some := by
    rw [← mapM_eq_some_iff.mp h]
    exact List.mem_map_of_mem hitem
  obtain ⟨value, hvalue, heq⟩ := List.mem_map.mp hmem
  exact ⟨value, hvalue, heq.symm⟩

/-- Every value has been read from an item. -/
theorem exists_item_of_mapM (h : items.mapM read? = some values) {value : β}
    (hvalue : value ∈ values) : ∃ item ∈ items, read? item = some value := by
  have hmem : some value ∈ items.map read? := by
    rw [mapM_eq_some_iff.mp h]
    exact List.mem_map_of_mem hvalue
  exact List.mem_map.mp hmem

/-- Values whose written forms read back can be read back from a list. -/
theorem mapM_map_eq_some {write : β → α} (h : ∀ value ∈ values, read? (write value) = some value) :
    (values.map write).mapM read? = some values := by
  rw [mapM_eq_some_iff, List.map_map]
  exact List.map_congr_left h

/-- Items read as the values they are written from, when each of them does. -/
theorem mapM_eq_some_iff_eq_map {write : β → α}
    (h : ∀ item value, read? item = some value ↔ item = write value) :
    items.mapM read? = some values ↔ items = values.map write := by
  rw [mapM_eq_some_iff]
  induction items generalizing values with
  | nil => cases values <;> simp
  | cons first rest ih =>
    cases values with
    | nil => simp
    | cons value values => simp [h, ih]

end Items

namespace Json

/-! ### Fields -/

variable {α : Type} {decode? : Json → Option α} {json : Json} {order : List String} {name : String}
  {value : α}

/-- The first field of an object, or one of the others. -/
@[simp]
theorem field?_object_cons (key : String) (part : Json) (rest : List (String × Json))
    (order : List String) (name : String) :
    (object ((key, part) :: rest)).field? order name =
      if key = name then some part else (object rest).field? order name := by
  have hobject (fields : List (String × Json)) :
      (object fields).field? order name = (fields.find? (·.1 == name)).map Prod.snd := by
    unfold field? part?
    dsimp only
    split
    · rename_i field hfound
      simp only [hfound, Option.map_some]
    · rename_i hfound
      simp only [hfound, Option.map_none]
  rw [hobject, hobject, List.find?_cons]
  by_cases hkey : key = name
  · rw [if_pos hkey, beq_iff_eq.mpr hkey]
    rfl
  · rw [if_neg hkey, beq_eq_false_iff_ne.mpr hkey]

theorem required?_eq_some_iff :
    json.required? decode? order name = some value ↔
      ∃ part, json.field? order name = some part ∧ decode? part = some value :=
  Option.bind_eq_some_iff

/-- A value that is not `null` is read. -/
theorem orNull?_of_ne_null {part : Json} (hne : part ≠ null) :
    orNull? decode? part = (decode? part).map some := by
  rw [orNull?]
  exact hne

/-- The value of an optional field has been read from it. -/
theorem exists_part_of_optional? (h : json.optional? decode? order name = some (some value)) :
    ∃ part, json.field? order name = some part ∧ decode? part = some value := by
  rw [optional?] at h
  cases hpart : json.field? order name with
  | none =>
    rw [hpart] at h
    dsimp only at h
    split at h <;> cases h
  | some part =>
    rw [hpart] at h
    by_cases hnull : part = null
    · subst hnull
      cases h
    · dsimp only at h
      rw [orNull?_of_ne_null hnull] at h
      obtain ⟨value, hvalue, heq⟩ := Option.map_eq_some_iff.mp h
      exact ⟨part, rfl, by rw [hvalue, Option.some.inj heq]⟩

/-- An optional field that is there, and not `null`, is read. -/
theorem optional?_of_ne_null {part : Json} (h : json.field? order name = some part)
    (hne : part ≠ null) : json.optional? decode? order name = (decode? part).map some := by
  rw [optional?, h]
  exact orNull?_of_ne_null hne

/-- An option reads back, unless its value is written as `null` itself. -/
theorem orNull?_ofOption {encode : α → Json} {value? : Option α}
    (hdecode : ∀ value ∈ value?, decode? (encode value) = some value)
    (hnull : ∀ value, encode value ≠ null) :
    orNull? decode? (ofOption encode value?) = some value? := by
  cases value? with
  | none => rfl
  | some value => rw [ofOption, orNull?_of_ne_null (hnull value), hdecode value rfl, Option.map_some]

@[simp]
theorem orNull?_ofOption_string (text? : Option String) :
    orNull? asString? (ofOption string text?) = some text? := by
  refine orNull?_ofOption (fun text _ => ?_) (fun text => ?_)
  · rfl
  · exact Json.noConfusion

/-- A word reads back from its digits. -/
@[simp]
theorem asWord?_ofNat (word : UInt64) : (ofNat word.toNat).asWord? = some word := by
  have hread : (ofNat word.toNat).asWord? =
      if word.toNat < UInt64.size then some word.toNat.toUInt64 else none := rfl
  have hword : word.toNat.toUInt64 = word := UInt64.ofNat_toNat
  rw [hread, if_pos word.toNat_lt_size, hword]

end Json

end Nomenclator
