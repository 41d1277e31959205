import Nomenclator.Json
import Nomenclator.Settings

/-!
# Settings as JSON

The written form is an object with all the settings. When it is read, the four parts have to be
there, while each annotation class may be missing and then has its default. The settings and the
annotation classes may also be given as arrays. Unknown fields are ignored, and names are taken as
they are.
-/

namespace Nomenclator

/-- The written form of the annotation classes. -/
def AnnotationClasses.toJson (classes : AnnotationClasses) : Json :=
  .object
    [("interop_name", .string classes.interopName),
     ("opt_in", .string classes.optIn),
     ("experimental_marker", .string classes.experimentalMarker)]

/-- The written form of settings. -/
def Settings.toJson (settings : Settings) : Json :=
  .object
    [("reserved_package_roots", .array (settings.reservedPackageRoots.map .string)),
     ("reserved_root_namespace", .string settings.reservedRootNamespace),
     ("well_known_types",
       .object (settings.wellKnownTypes.toList.map fun (name, text) => (name, .string text))),
     ("annotations", settings.annotations.toJson)]

/-- The fields of the annotation classes, in order. -/
def AnnotationClasses.fieldNames : List String :=
  ["interop_name", "opt_in", "experimental_marker"]

/-- Reads annotation classes. -/
def AnnotationClasses.ofJson? (json : Json) : Option AnnotationClasses := do
  guard (json.isRecord fieldNames)
  let interopName ← json.defaulted? Json.asString? default.interopName fieldNames "interop_name"
  let optIn ← json.defaulted? Json.asString? default.optIn fieldNames "opt_in"
  let experimentalMarker ←
    json.defaulted? Json.asString? default.experimentalMarker fieldNames "experimental_marker"
  return { interopName, optIn, experimentalMarker }

namespace Settings

/-- Reads a list of texts. -/
def stringsOfJson? (json : Json) : Option (List String) := do
  let items ← json.asArray?
  items.mapM Json.asString?

/-- Reads a table of texts. -/
def stringTableOfJson? (json : Json) : Option (Std.ExtTreeMap String String) := do
  let fields ← json.asObject?
  let entries ← fields.mapM fun (name, value) => do
    let text ← value.asString?
    return (name, text)
  return .ofList entries

/-- The fields of settings, in order. -/
def fieldNames : List String :=
  ["reserved_package_roots", "reserved_root_namespace", "well_known_types", "annotations"]

/-- Reads settings. -/
def ofJson? (json : Json) : Option Settings := do
  guard (json.isRecord fieldNames)
  let reservedPackageRoots ← json.required? stringsOfJson? fieldNames "reserved_package_roots"
  let reservedRootNamespace ←
    json.required? Json.asString? fieldNames "reserved_root_namespace"
  let wellKnownTypes ← json.required? stringTableOfJson? fieldNames "well_known_types"
  let annotations ← json.required? AnnotationClasses.ofJson? fieldNames "annotations"
  return { reservedPackageRoots, reservedRootNamespace, wellKnownTypes, annotations }

end Settings

end Nomenclator
