import Mathlib
import Nomenclator.Proofs.Json.Reading
import Nomenclator.Proofs.QualifiedName.Segments
import Nomenclator.Proofs.Toml.DistinctKeys
import Nomenclator.Settings.Overlay

/-!
# Settings over their defaults

What a document chooses is stated key by key: its value there, which has to be of a certain form, or
the default when the key is missing. Settings are an overlay of the defaults by a document when each
part of them is chosen in this way, and the well-known types name by name. A document has at most
one overlay, and reading the settings of a document finds it. Where a document has none, or its
annotation classes are no qualified names, the error tells the two cases apart.
-/

namespace Nomenclator

namespace Toml

/-! ### What a document chooses -/

/-- The entries of a value where a table is expected. A date or time has its text as the only
entry. -/
inductive Value.IsTable : Value → Entries → Prop
  | table (origin : Origin) (entries : Entries) : IsTable (.table origin entries) entries
  | dateTime (moment : DateTime) :
      IsTable (.dateTime moment) [("$__toml_private_datetime", .string moment.text)]

/-- The text of a string. -/
def Value.IsString (value : Value) (text : String) : Prop :=
  value = .string text

/-- The texts of an array of strings. -/
def Value.IsStrings (value : Value) (texts : List String) : Prop :=
  value = .array (texts.map .string)

/-- The entries of a table of strings. -/
def Value.IsStringTable (value : Value) (texts : List (String × String)) : Prop :=
  value.IsTable (texts.map fun (key, text) => (key, .string text))

/-- What a table chooses under a key: what its value there is, or something else when the key is
missing. -/
def Entries.Chooses {α : Type} (entries : Entries) (reads : Value → α → Prop) (key : String)
    (otherwise chosen : α) : Prop :=
  match entries.find? key with
  | some value => reads value chosen
  | none => chosen = otherwise

/-- The annotation classes of a value. A table names them, and keeps the defaults of those that it
leaves out; an array has them in order. -/
inductive Value.IsAnnotations : Value → AnnotationClasses → Prop
  | table {value : Value} {entries : Entries} {classes : AnnotationClasses}
      (hvalue : value.IsTable entries)
      (hinterop : entries.Chooses IsString "interop_name"
        AnnotationClasses.default.interopName classes.interopName)
      (hoptIn : entries.Chooses IsString "opt_in"
        AnnotationClasses.default.optIn classes.optIn)
      (hmarker : entries.Chooses IsString "experimental_marker"
        AnnotationClasses.default.experimentalMarker classes.experimentalMarker) :
      IsAnnotations value classes
  | array {items : List Value} {names : List String} {classes : AnnotationClasses}
      (hitems : items.take 3 = names.map .string)
      (hinterop : names.getD 0 AnnotationClasses.default.interopName = classes.interopName)
      (hoptIn : names.getD 1 AnnotationClasses.default.optIn = classes.optIn)
      (hmarker : names.getD 2 AnnotationClasses.default.experimentalMarker =
        classes.experimentalMarker) :
      IsAnnotations (.array items) classes

end Toml

/-- The names of the annotation classes. -/
def AnnotationClasses.names (classes : AnnotationClasses) : List String :=
  [classes.interopName, classes.optIn, classes.experimentalMarker]

/-- The settings are the defaults with the choices of a document on top. -/
structure Settings.IsOverlay (settings : Settings) (document : Toml.Entries) : Prop where
  keys : ∀ entry ∈ document, entry.1 ∈
    ["reserved_package_roots", "reserved_root_namespace", "well_known_types", "annotations"]
  roots : document.Chooses Toml.Value.IsStrings "reserved_package_roots"
    Settings.default.reservedPackageRoots settings.reservedPackageRoots
  rootNamespace : document.Chooses Toml.Value.IsString "reserved_root_namespace"
    Settings.default.reservedRootNamespace settings.reservedRootNamespace
  wellKnown : ∃ entries, document.Chooses Toml.Value.IsStringTable "well_known_types" [] entries ∧
    ∀ name, settings.wellKnownName? name =
      (entries.lookup name).or (Settings.default.wellKnownName? name)
  annotations : document.Chooses Toml.Value.IsAnnotations "annotations"
    Settings.default.annotations settings.annotations

namespace Toml

/-! ### Values are read as what they are -/

namespace Value

variable {value : Value}

theorem asString?_eq_some_iff {text : String} :
    value.asString? = some text ↔ value.IsString text := by
  cases value <;> simp [asString?, IsString]

theorem asArray?_eq_some_iff {items : List Value} :
    value.asArray? = some items ↔ value = .array items := by
  cases value <;> simp [asArray?]

theorem asEntries?_eq_some_iff {entries : Entries} :
    value.asEntries? = some entries ↔ value.IsTable entries := by
  constructor
  · intro h
    cases value with
    | table origin content => exact Option.some.inj h ▸ .table origin content
    | dateTime moment => exact Option.some.inj h ▸ .dateTime moment
    | _ => cases h
  · rintro (_ | _)
    · rfl
    · rfl

theorem mapM_asString?_eq_some_iff {items : List Value} {texts : List String} :
    items.mapM asString? = some texts ↔ items = texts.map .string :=
  mapM_eq_some_iff_eq_map fun _ _ => asString?_eq_some_iff

theorem asStrings?_eq_some_iff {texts : List String} :
    value.asStrings? = some texts ↔ value.IsStrings texts := by
  simp [asStrings?, Option.bind_eq_some_iff, asArray?_eq_some_iff, mapM_asString?_eq_some_iff,
    IsStrings]

theorem asStringEntries?_eq_some_iff {texts : List (String × String)} :
    value.asStringEntries? = some texts ↔ value.IsStringTable texts := by
  have hread (entry : String × Value) (text : String × String) :
      (do let content ← entry.2.asString?; return (entry.1, content)) = some text ↔
        entry = (text.1, .string text.2) := by
    simp [Option.bind_eq_some_iff, asString?_eq_some_iff, IsString, Prod.ext_iff, and_comm]
  calc value.asStringEntries? = some texts
    _ ↔ ∃ entries, value.IsTable entries ∧
        entries = texts.map fun (key, text) => (key, .string text) :=
      Option.bind_eq_some_iff.trans <| exists_congr fun entries =>
        and_congr asEntries?_eq_some_iff (mapM_eq_some_iff_eq_map hread)
    _ ↔ value.IsStringTable texts := exists_eq_right

end Value

/-- A key is decoded as what the table chooses under it. -/
theorem Entries.exists_optional?_iff {α : Type} {decode? : Value → Option α}
    {reads : Value → α → Prop} (h : ∀ {value a}, decode? value = some a ↔ reads value a)
    {entries : Entries} {key : String} {otherwise chosen : α} :
    (∃ chosen?, entries.optional? decode? key = some chosen? ∧ chosen?.getD otherwise = chosen) ↔
      entries.Chooses reads key otherwise chosen := by
  unfold optional? Chooses
  cases entries.find? key with
  | none => simp [eq_comm]
  | some value => simp [← h]

end Toml

/-! ### The annotation classes -/

namespace AnnotationClasses

open Toml Toml.Value

variable {classes : AnnotationClasses}

theorem ofEntries?_eq_some_iff {entries : Entries} :
    ofEntries? entries = some classes ↔
      entries.Chooses IsString "interop_name" default.interopName classes.interopName ∧
      entries.Chooses IsString "opt_in" default.optIn classes.optIn ∧
      entries.Chooses IsString "experimental_marker" default.experimentalMarker
        classes.experimentalMarker := by
  simp only [← Entries.exists_optional?_iff asString?_eq_some_iff]
  constructor
  · intro h
    obtain ⟨interopName?, hinterop, h⟩ := Option.bind_eq_some_iff.mp h
    obtain ⟨optIn?, hoptIn, h⟩ := Option.bind_eq_some_iff.mp h
    obtain ⟨marker?, hmarker, h⟩ := Option.bind_eq_some_iff.mp h
    obtain rfl := Option.some.inj h
    exact ⟨⟨interopName?, hinterop, rfl⟩, ⟨optIn?, hoptIn, rfl⟩, ⟨marker?, hmarker, rfl⟩⟩
  · rintro ⟨⟨interopName?, hinterop, hinterop'⟩, ⟨optIn?, hoptIn, hoptIn'⟩,
      ⟨marker?, hmarker, hmarker'⟩⟩
    simp [ofEntries?, hinterop, hoptIn, hmarker, hinterop', hoptIn', hmarker']

theorem ofValue?_eq_some_iff {value : Value} :
    ofValue? value = some classes ↔ value.IsAnnotations classes := by
  constructor
  · intro h
    rw [ofValue?.eq_def] at h
    split at h
    · obtain ⟨names, hnames, h⟩ := Option.bind_eq_some_iff.mp h
      obtain rfl := Option.some.inj h
      exact .array (mapM_asString?_eq_some_iff.mp hnames) rfl rfl rfl
    · obtain ⟨entries, hentries, h⟩ := Option.bind_eq_some_iff.mp h
      obtain ⟨hinterop, hoptIn, hmarker⟩ := ofEntries?_eq_some_iff.mp h
      exact .table (asEntries?_eq_some_iff.mp hentries) hinterop hoptIn hmarker
  · rintro (⟨hvalue, hinterop, hoptIn, hmarker⟩ | ⟨hitems, hinterop, hoptIn, hmarker⟩)
    · have hentries := ofEntries?_eq_some_iff.mpr ⟨hinterop, hoptIn, hmarker⟩
      cases hvalue with
      | table origin entries => exact hentries
      | dateTime moment => exact hentries
    · have hnames := mapM_asString?_eq_some_iff.mpr hitems
      refine Option.bind_eq_some_iff.mpr ⟨_, hnames, ?_⟩
      rw [hinterop, hoptIn, hmarker]
      rfl

/-- Why a name is no qualified name. -/
def cause? (name : String) : Option QualifiedName.Error :=
  match QualifiedName.parse name with
  | .ok _ => none
  | .error cause => some cause

theorem cause?_eq_some_iff {name : String} {cause : QualifiedName.Error} :
    cause? name = some cause ↔ QualifiedName.parse name = .error cause := by
  unfold cause?
  cases QualifiedName.parse name <;> simp

theorem cause?_eq_none_iff {name : String} :
    cause? name = none ↔ "" ∉ DottedName.segments name := by
  rw [← QualifiedName.exists_parse_eq_ok_iff, cause?]
  cases QualifiedName.parse name <;> simp

theorem invalid?_eq_findSome? (classes : AnnotationClasses) :
    classes.invalid? = classes.names.findSome? cause? :=
  rfl

theorem invalid?_eq_none_iff :
    classes.invalid? = none ↔ ∀ name ∈ classes.names, "" ∉ DottedName.segments name := by
  rw [invalid?_eq_findSome?, List.findSome?_eq_none_iff]
  exact forall₂_congr fun name _ => cause?_eq_none_iff

/-- The first class that is no qualified name is the one that is reported. -/
theorem invalid?_eq_some_iff {cause : QualifiedName.Error} :
    classes.invalid? = some cause ↔ ∃ earlier name later,
      classes.names = earlier ++ name :: later ∧
      QualifiedName.parse name = .error cause ∧
      ∀ other ∈ earlier, "" ∉ DottedName.segments other := by
  simp only [invalid?_eq_findSome?, List.findSome?_eq_some_iff, cause?_eq_some_iff,
    cause?_eq_none_iff]

end AnnotationClasses

/-! ### The overlay -/

namespace Overrides

open Toml Toml.Value

/-- The choices of a document are those of its keys. -/
theorem ofEntries?_eq_some_iff {overrides : Overrides} {document : Entries} :
    ofEntries? document = some overrides ↔
      (∀ entry ∈ document, entry.1 ∈ keys) ∧
      document.optional? asStrings? "reserved_package_roots" =
        some overrides.reservedPackageRoots? ∧
      document.optional? asString? "reserved_root_namespace" =
        some overrides.reservedRootNamespace? ∧
      (∃ wellKnown?, document.optional? asStringEntries? "well_known_types" = some wellKnown? ∧
        wellKnown?.getD [] = overrides.wellKnownTypes) ∧
      document.optional? AnnotationClasses.ofValue? "annotations" =
        some overrides.annotations? := by
  have hkeys : (document.all fun entry => keys.contains entry.1) = true ↔
      ∀ entry ∈ document, entry.1 ∈ keys := by
    simp
  unfold ofEntries?
  constructor
  · intro h
    split at h
    · rename_i hall
      obtain ⟨roots?, hroots, h⟩ := Option.bind_eq_some_iff.mp h
      obtain ⟨namespace?, hnamespace, h⟩ := Option.bind_eq_some_iff.mp h
      obtain ⟨wellKnown?, hwellKnown, h⟩ := Option.bind_eq_some_iff.mp h
      obtain ⟨annotations?, hannotations, h⟩ := Option.bind_eq_some_iff.mp h
      obtain rfl := Option.some.inj h
      exact ⟨hkeys.mp hall, hroots, hnamespace, ⟨wellKnown?, hwellKnown, rfl⟩, hannotations⟩
    · cases h
  · rintro ⟨hall, hroots, hnamespace, ⟨wellKnown?, hwellKnown, heq⟩, hannotations⟩
    rw [if_pos (hkeys.mpr hall), hroots, hnamespace, hwellKnown, hannotations]
    exact congrArg (fun entries => some { overrides with wellKnownTypes := entries }) heq

end Overrides

namespace Settings

open Toml Toml.Value

variable {settings : Settings} {document : Entries}

/-- A well-known name is the one that has been chosen, if there is one. -/
theorem wellKnownName?_overlay {overrides : Overrides}
    (h : (overrides.wellKnownTypes.map Prod.fst).Nodup) (name : String) :
    (settings.overlay overrides).wellKnownName? name =
      (overrides.wellKnownTypes.lookup name).or (settings.wellKnownName? name) := by
  change (settings.wellKnownTypes.insertMany overrides.wellKnownTypes)[name]? = _
  cases hchosen : overrides.wellKnownTypes.lookup name with
  | none =>
    refine Std.ExtTreeMap.getElem?_insertMany_list_of_contains_eq_false ?_
    rw [Bool.eq_false_iff, ne_eq, List.contains_iff_mem, List.mem_map]
    rintro ⟨entry, hentry, rfl⟩
    exact bne_iff_ne.mp (List.lookup_eq_none_iff.mp hchosen entry hentry) rfl
  | some foreign =>
    obtain ⟨earlier, later, heq, -⟩ := List.lookup_eq_some_iff.mp hchosen
    refine Std.ExtTreeMap.getElem?_insertMany_list_of_mem
      (Std.LawfulEqCmp.compare_eq_iff_eq.mpr rfl) ?_ ?_
    · refine (List.pairwise_map.mp h).imp fun hne heq => hne ?_
      exact Std.LawfulEqCmp.compare_eq_iff_eq.mp heq
    · rw [heq]
      exact List.mem_append_right earlier List.mem_cons_self

/-- The settings are determined by their parts, and the well-known types name by name. -/
theorem ext_wellKnownName? {other : Settings}
    (hroots : settings.reservedPackageRoots = other.reservedPackageRoots)
    (hnamespace : settings.reservedRootNamespace = other.reservedRootNamespace)
    (hwellKnown : ∀ name, settings.wellKnownName? name = other.wellKnownName? name)
    (hannotations : settings.annotations = other.annotations) : settings = other := by
  obtain ⟨roots, rootNamespace, wellKnown, annotations⟩ := settings
  obtain ⟨roots', rootNamespace', wellKnown', annotations'⟩ := other
  obtain rfl : wellKnown = wellKnown' := Std.ExtTreeMap.ext_getElem? fun name => hwellKnown name
  simp_all

/-- The well-known types that a document chooses have distinct names. -/
theorem nodup_of_chooses_isStringTable (h : document.HasDistinctKeys) {key : String}
    {entries : List (String × String)} (hchooses : document.Chooses IsStringTable key [] entries) :
    (entries.map Prod.fst).Nodup := by
  rw [Entries.Chooses] at hchooses
  split at hchooses
  · rename_i value hfind
    have hkeys : (entries.map fun (key, text) => (key, Value.string text)).map Prod.fst =
        entries.map Prod.fst := by simp [Function.comp_def]
    rw [IsStringTable] at hchooses
    rw [← hkeys]
    generalize entries.map (fun (key, text) => (key, Value.string text)) = content at hchooses ⊢
    cases hchooses with
    | table origin => exact (hasDistinctKeys_table.mp (h.of_find? hfind)).keys
    | dateTime moment => exact List.nodup_singleton _
  · exact hchooses ▸ List.nodup_nil

/-- The choices of a document make up its overlay. -/
theorem exists_overrides_iff (h : document.HasDistinctKeys) :
    (∃ overrides, Overrides.ofEntries? document = some overrides ∧
      default.overlay overrides = settings) ↔ settings.IsOverlay document := by
  constructor
  · rintro ⟨overrides, hoverrides, rfl⟩
    obtain ⟨hkeys, hroots, hnamespace, hwellKnown, hannotations⟩ :=
      Overrides.ofEntries?_eq_some_iff.mp hoverrides
    have hchosen := (Entries.exists_optional?_iff asStringEntries?_eq_some_iff).mp hwellKnown
    exact
      { keys := hkeys
        roots := (Entries.exists_optional?_iff asStrings?_eq_some_iff).mp ⟨_, hroots, rfl⟩
        rootNamespace := (Entries.exists_optional?_iff asString?_eq_some_iff).mp
          ⟨_, hnamespace, rfl⟩
        wellKnown := ⟨_, hchosen, wellKnownName?_overlay (nodup_of_chooses_isStringTable h hchosen)⟩
        annotations := (Entries.exists_optional?_iff AnnotationClasses.ofValue?_eq_some_iff).mp
          ⟨_, hannotations, rfl⟩ }
  · intro hoverlay
    obtain ⟨roots?, hroots, hroots'⟩ :=
      (Entries.exists_optional?_iff asStrings?_eq_some_iff).mpr hoverlay.roots
    obtain ⟨namespace?, hnamespace, hnamespace'⟩ :=
      (Entries.exists_optional?_iff asString?_eq_some_iff).mpr hoverlay.rootNamespace
    obtain ⟨entries, hchosen, hentries⟩ := hoverlay.wellKnown
    have hwellKnown := (Entries.exists_optional?_iff asStringEntries?_eq_some_iff).mpr hchosen
    obtain ⟨annotations?, hannotations, hannotations'⟩ :=
      (Entries.exists_optional?_iff AnnotationClasses.ofValue?_eq_some_iff).mpr hoverlay.annotations
    let overrides : Overrides :=
      { reservedPackageRoots? := roots?, reservedRootNamespace? := namespace?
        wellKnownTypes := entries, annotations? }
    refine ⟨overrides, Overrides.ofEntries?_eq_some_iff.mpr
      ⟨hoverlay.keys, hroots, hnamespace, hwellKnown, hannotations⟩,
      ext_wellKnownName? hroots' hnamespace' (fun name => ?_) hannotations'⟩
    rw [hentries]
    exact wellKnownName?_overlay (nodup_of_chooses_isStringTable h hchosen) name

theorem isOverlay_nil : default.IsOverlay [] where
  keys := List.forall_mem_nil _
  roots := rfl
  rootNamespace := rfl
  wellKnown := ⟨[], rfl, fun _ => rfl⟩
  annotations := rfl

/-! ### Outcomes -/

/-- The settings, unless one of their annotation classes is no qualified name. -/
def checked (settings : Settings) : Except SettingsError Settings :=
  match settings.annotations.invalid? with
  | some cause => .error (.invalidName cause)
  | none => .ok settings

theorem checked_eq_ok_iff {result : Settings} :
    settings.checked = .ok result ↔
      settings = result ∧ ∀ name ∈ settings.annotations.names, "" ∉ DottedName.segments name := by
  rw [← AnnotationClasses.invalid?_eq_none_iff, checked]
  split <;> simp [*]

theorem checked_eq_invalidName_iff {cause : QualifiedName.Error} :
    settings.checked = .error (.invalidName cause) ↔ ∃ earlier name later,
      settings.annotations.names = earlier ++ name :: later ∧
      QualifiedName.parse name = .error cause ∧
      ∀ other ∈ earlier, "" ∉ DottedName.segments other := by
  rw [← AnnotationClasses.invalid?_eq_some_iff, checked]
  split <;> simp [*]

theorem checked_ne_malformed : settings.checked ≠ .error .malformed := by
  rw [checked]
  split <;> simp

/-- The default annotation classes are qualified names. -/
theorem default_names :
    ∀ name ∈ AnnotationClasses.default.names, "" ∉ DottedName.segments name := by
  decide +kernel

section Parse

variable {text : String}

theorem parse_of_overrides {overrides : Overrides} (hread : Toml.read? text = some document)
    (hoverrides : Overrides.ofEntries? document = some overrides) :
    parse text = (default.overlay overrides).checked := by
  simp only [parse, hread, ofEntries, hoverrides]
  rfl

/-- The overlay is what is read, as far as its annotation classes are qualified names. -/
theorem parse_of_isOverlay (hread : Toml.read? text = some document)
    (hoverlay : settings.IsOverlay document) : parse text = settings.checked := by
  obtain ⟨overrides, hoverrides, rfl⟩ :=
    (exists_overrides_iff (read?_hasDistinctKeys hread)).mpr hoverlay
  exact parse_of_overrides hread hoverrides

/-- Without an overlay nothing is read. -/
theorem parse_of_not_exists_isOverlay
    (h : ¬ ∃ document settings, Toml.read? text = some document ∧ IsOverlay settings document) :
    parse text = .error .malformed := by
  rw [parse]
  cases hread : Toml.read? text with
  | none => rfl
  | some document =>
    simp only [ofEntries]
    cases hoverrides : Overrides.ofEntries? document with
    | none => rfl
    | some overrides =>
      have hoverlay := (exists_overrides_iff (read?_hasDistinctKeys hread)).mp
        ⟨overrides, hoverrides, rfl⟩
      exact absurd ⟨document, _, hread, hoverlay⟩ h

/-- Every outcome but a malformed document comes from an overlay. -/
theorem exists_isOverlay_of_parse {result : Except SettingsError Settings}
    (h : parse text = result) (hne : result ≠ .error .malformed) :
    ∃ document settings, Toml.read? text = some document ∧ IsOverlay settings document := by
  by_contra hnone
  exact hne (h.symm.trans (parse_of_not_exists_isOverlay hnone))

end Parse

/-- **The settings of a text are the overlay of the defaults by its document**, as long as the
annotation classes are qualified names. A text without such a document is malformed, and otherwise
the first annotation class that is no qualified name is reported. -/
theorem parse_overlays_defaults (text : String) :
    (∀ settings, parse text = .ok settings ↔
      ∃ document, Toml.read? text = some document ∧ settings.IsOverlay document ∧
        ∀ name ∈ settings.annotations.names, "" ∉ DottedName.segments name) ∧
    (parse text = .error .malformed ↔
      ¬ ∃ document settings, Toml.read? text = some document ∧ IsOverlay settings document) ∧
    (∀ cause, parse text = .error (.invalidName cause) ↔
      ∃ document settings, Toml.read? text = some document ∧ IsOverlay settings document ∧
        ∃ earlier name later, settings.annotations.names = earlier ++ name :: later ∧
          QualifiedName.parse name = .error cause ∧
          ∀ other ∈ earlier, "" ∉ DottedName.segments other) ∧
    parse "" = .ok default := by
  refine ⟨fun settings => ⟨fun h => ?_, ?_⟩, ⟨?_, parse_of_not_exists_isOverlay⟩,
    fun cause => ⟨fun h => ?_, ?_⟩, ?_⟩
  · obtain ⟨document, overlaid, hread, hoverlay⟩ := exists_isOverlay_of_parse h nofun
    obtain ⟨rfl, hnames⟩ := checked_eq_ok_iff.mp ((parse_of_isOverlay hread hoverlay).symm.trans h)
    exact ⟨document, hread, hoverlay, hnames⟩
  · rintro ⟨document, hread, hoverlay, hnames⟩
    exact (parse_of_isOverlay hread hoverlay).trans (checked_eq_ok_iff.mpr ⟨rfl, hnames⟩)
  · rintro h ⟨document, settings, hread, hoverlay⟩
    exact checked_ne_malformed ((parse_of_isOverlay hread hoverlay).symm.trans h)
  · obtain ⟨document, settings, hread, hoverlay⟩ := exists_isOverlay_of_parse h nofun
    exact ⟨document, settings, hread, hoverlay,
      checked_eq_invalidName_iff.mp ((parse_of_isOverlay hread hoverlay).symm.trans h)⟩
  · rintro ⟨document, settings, hread, hoverlay, hnames⟩
    exact (parse_of_isOverlay hread hoverlay).trans (checked_eq_invalidName_iff.mpr hnames)
  · have hread : Toml.read? "" = some [] := by cbv
    exact (parse_of_isOverlay hread isOverlay_nil).trans
      (checked_eq_ok_iff.mpr ⟨rfl, default_names⟩)

/-- A date is read where a table is expected, and an array where the annotation classes are. -/
theorem date_and_array_accepted :
    (∃ document settings, Toml.read? "well_known_types = 1979-05-27" = some document ∧
      document.find? "well_known_types" = some (.dateTime (.date ⟨1979, 5, 27⟩)) ∧
      parse "well_known_types = 1979-05-27" = .ok settings ∧
      settings.wellKnownName? "$__toml_private_datetime" = some "1979-05-27" ∧
      default.wellKnownName? "$__toml_private_datetime" = none) ∧
    ∃ document settings, Toml.read? "annotations = [\"ui.Name\"]" = some document ∧
      document.find? "annotations" = some (.array [.string "ui.Name"]) ∧
      parse "annotations = [\"ui.Name\"]" = .ok settings ∧
      settings.annotations = { AnnotationClasses.default with interopName := "ui.Name" } := by
  constructor
  · have hread : Toml.read? "well_known_types = 1979-05-27" =
        some [("well_known_types", .dateTime (.date ⟨1979, 5, 27⟩))] := by cbv
    have hoverrides : Overrides.ofEntries?
        [("well_known_types", .dateTime (.date ⟨1979, 5, 27⟩))] = some
          { reservedPackageRoots? := none, reservedRootNamespace? := none
            wellKnownTypes := [("$__toml_private_datetime", "1979-05-27")]
            annotations? := none } := by cbv
    refine ⟨_, _, hread, rfl, (parse_of_overrides hread hoverrides).trans
      (checked_eq_ok_iff.mpr ⟨rfl, ?_⟩), ?_, ?_⟩
    · exact default_names
    · rw [wellKnownName?_overlay (by decide)]
      rfl
    · decide +kernel
  · have hread : Toml.read? "annotations = [\"ui.Name\"]" =
        some [("annotations", .array [.string "ui.Name"])] := by cbv
    have hoverrides : Overrides.ofEntries?
        [("annotations", .array [.string "ui.Name"])] = some
          { reservedPackageRoots? := none, reservedRootNamespace? := none
            wellKnownTypes := []
            annotations? :=
              some { AnnotationClasses.default with interopName := "ui.Name" } } := by cbv
    refine ⟨_, _, hread, rfl, (parse_of_overrides hread hoverrides).trans
      (checked_eq_ok_iff.mpr ⟨rfl, ?_⟩), rfl⟩
    decide +kernel

end Settings

end Nomenclator
