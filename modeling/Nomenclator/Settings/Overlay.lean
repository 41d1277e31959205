import Nomenclator.Settings
import Nomenclator.Toml.Document

/-!
# Settings from a document

A project writes its choices as a TOML document. What the document leaves out keeps its default: the
roots and the namespace as a whole, the annotation classes one by one, and the well-known types
entry by entry, so that a document can change or add an entry but never remove one.

The document is strict about its own keys and lenient about those of the annotations, where unknown
keys are ignored. The annotation classes have to be qualified names; this is checked last, so a
document of the wrong shape is reported first.

A table may be given as a date or time, which reads as a table with its text as the only entry. The
annotation classes may also be given as an array, in the order of their fields.
-/

namespace Nomenclator

/-- Why there are no settings. -/
inductive SettingsError where
  /-- The document is no TOML, or it has an unknown key or a value of the wrong type. -/
  | malformed
  /-- An annotation class is not a qualified name. -/
  | invalidName (cause : QualifiedName.Error)
  /-- The file cannot be read. -/
  | unreadable (path reason : String)
deriving DecidableEq, Repr

/-- The wording of an error. A malformed document is reported without details. -/
def SettingsError.message? : SettingsError → Option String
  | .malformed => none
  | .invalidName cause => some ("Invalid qualified name: " ++ cause.message)
  | .unreadable path reason =>
    some ("Configuration error: Failed to read interop config '" ++ path ++ "': " ++ reason)

namespace Toml

/-- The key of the only entry of a date or time that is read as a table. -/
def dateTimeKey : String :=
  "$__toml_private_datetime"

namespace Value

/-- The text of a string. -/
def asString? : Value → Option String
  | string text => some text
  | _ => none

/-- The items of an array. -/
def asArray? : Value → Option (List Value)
  | array items => some items
  | _ => none

/-- The entries of a table. -/
def asEntries? : Value → Option Entries
  | table _ entries => some entries
  | dateTime value => some [(dateTimeKey, .string value.text)]
  | _ => none

/-- The texts of an array of strings. -/
def asStrings? (value : Value) : Option (List String) := do
  let items ← value.asArray?
  items.mapM asString?

/-- The texts of a table of strings. -/
def asStringEntries? (value : Value) : Option (List (String × String)) := do
  let entries ← value.asEntries?
  entries.mapM fun (key, value) => do
    let text ← value.asString?
    return (key, text)

end Value

/-- The value of a key that may be missing. -/
def Entries.optional? {α : Type} (decode? : Value → Option α) (entries : Entries) (key : String) :
    Option (Option α) :=
  match entries.find? key with
  | some value => (decode? value).map some
  | none => some none

end Toml

namespace AnnotationClasses

/-- The annotation classes of a table; classes that are left out keep their defaults. -/
def ofEntries? (entries : Toml.Entries) : Option AnnotationClasses := do
  let interopName? ← entries.optional? Toml.Value.asString? "interop_name"
  let optIn? ← entries.optional? Toml.Value.asString? "opt_in"
  let experimentalMarker? ← entries.optional? Toml.Value.asString? "experimental_marker"
  return {
    interopName := interopName?.getD default.interopName
    optIn := optIn?.getD default.optIn
    experimentalMarker := experimentalMarker?.getD default.experimentalMarker }

/-- The annotation classes of an array, in the order of the fields; further items are ignored. -/
def ofItems? (items : List Toml.Value) : Option AnnotationClasses := do
  let names ← (items.take 3).mapM Toml.Value.asString?
  return {
    interopName := names.getD 0 default.interopName
    optIn := names.getD 1 default.optIn
    experimentalMarker := names.getD 2 default.experimentalMarker }

/-- The annotation classes of a value. -/
def ofValue? (value : Toml.Value) : Option AnnotationClasses :=
  match value with
  | .array items => ofItems? items
  | _ => value.asEntries?.bind ofEntries?

/-- The first annotation class that is not a qualified name. -/
def invalid? (classes : AnnotationClasses) : Option QualifiedName.Error :=
  [classes.interopName, classes.optIn, classes.experimentalMarker].findSome? fun name =>
    match QualifiedName.parse name with
    | .ok _ => none
    | .error cause => some cause

end AnnotationClasses

/-- What a document chooses. -/
structure Overrides where
  reservedPackageRoots? : Option (List String)
  reservedRootNamespace? : Option String
  wellKnownTypes : List (String × String)
  annotations? : Option AnnotationClasses

namespace Overrides

/-- The keys of a document. -/
def keys : List String :=
  ["reserved_package_roots", "reserved_root_namespace", "well_known_types", "annotations"]

/-- The choices of a document. -/
def ofEntries? (document : Toml.Entries) : Option Overrides :=
  if document.all fun (key, _) => keys.contains key then do
    let reservedPackageRoots? ← document.optional? Toml.Value.asStrings? "reserved_package_roots"
    let reservedRootNamespace? ← document.optional? Toml.Value.asString? "reserved_root_namespace"
    let wellKnownTypes? ← document.optional? Toml.Value.asStringEntries? "well_known_types"
    let annotations? ← document.optional? AnnotationClasses.ofValue? "annotations"
    return { reservedPackageRoots?, reservedRootNamespace?
             wellKnownTypes := wellKnownTypes?.getD [], annotations? }
  else none

end Overrides

namespace Settings

/-- The settings with the choices of a document on top. -/
def overlay (settings : Settings) (overrides : Overrides) : Settings where
  reservedPackageRoots := overrides.reservedPackageRoots?.getD settings.reservedPackageRoots
  reservedRootNamespace := overrides.reservedRootNamespace?.getD settings.reservedRootNamespace
  wellKnownTypes := settings.wellKnownTypes.insertMany overrides.wellKnownTypes
  annotations := overrides.annotations?.getD settings.annotations

/-- The settings of a document that has been read. -/
def ofEntries (document : Toml.Entries) : Except SettingsError Settings :=
  match Overrides.ofEntries? document with
  | none => .error .malformed
  | some overrides =>
    let settings := default.overlay overrides
    match settings.annotations.invalid? with
    | some cause => .error (.invalidName cause)
    | none => .ok settings

/-- The settings of the text of a document. -/
def parse (text : String) : Except SettingsError Settings :=
  match Toml.read? text with
  | none => .error .malformed
  | some document => ofEntries document

/-- What is found where a file should be. -/
inductive FileState where
  | absent
  | present (bytes : ByteArray)

/-- The settings of a file. -/
def load (path : String) : FileState → Except SettingsError Settings
  | .absent => .error (.unreadable path "No such file or directory (os error 2)")
  | .present bytes =>
    match String.fromUTF8? bytes with
    | none => .error (.unreadable path "stream did not contain valid UTF-8")
    | some text => parse text

end Settings

end Nomenclator
