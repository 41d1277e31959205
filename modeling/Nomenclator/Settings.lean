import Nomenclator.QualifiedName
import Std.Data.ExtTreeMap

/-!
# Settings

What a project can choose about its names: which package roots get an extra namespace segment, which
base-library types have fixed foreign names, and which annotation classes the output refers to. All
of it is data, and `Settings.default` holds the choices of a project that makes none.
-/

namespace Nomenclator

/-- The qualified names of the annotation classes in the output. -/
structure AnnotationClasses where
  /-- The annotation that carries a foreign name. -/
  interopName : String
  /-- The annotation of a file that opts in to an experimental feature. -/
  optIn : String
  /-- The class that marks the experimental feature. -/
  experimentalMarker : String
deriving DecidableEq, Repr

/-- The annotation classes of a project that chooses none. -/
def AnnotationClasses.default : AnnotationClasses where
  interopName := "kotlin.native.ObjCName"
  optIn := "kotlin.OptIn"
  experimentalMarker := "kotlin.experimental.ExperimentalObjCName"

/-- The choices that names depend on. -/
structure Settings where
  /-- First package segments that get `reservedRootNamespace` in front of them. -/
  reservedPackageRoots : List String
  /-- The extra leading segment of a package below a reserved root. -/
  reservedRootNamespace : String
  /-- Fixed foreign names by qualified name. -/
  wellKnownTypes : Std.ExtTreeMap String String
  annotations : AnnotationClasses
deriving DecidableEq

namespace Settings

/-- The base-library types with fixed foreign names. -/
def baseLibraryTypes : Std.ExtTreeMap String String :=
  .ofList
    [("java.lang.Object", "NSObject"), ("java.lang.String", "NSString"),
     ("java.lang.Class", "IOSClass"), ("java.lang.Number", "NSNumber"),
     ("java.lang.Cloneable", "NSCopying")]

/-- The choices of a project that makes none. -/
def default : Settings where
  reservedPackageRoots := ["java", "javax"]
  reservedRootNamespace := "j2kt"
  wellKnownTypes := baseLibraryTypes
  annotations := .default

/-- The fixed foreign name of a type, if it has one. -/
def wellKnownName? (settings : Settings) (name : String) : Option String :=
  settings.wellKnownTypes[name]?

/-- Whether a package lies below one of the reserved roots. The root itself does not. -/
def isReservedPackage (settings : Settings) (package : String) : Bool :=
  match DottedName.segments package with
  | root :: _ :: _ => settings.reservedPackageRoots.contains root
  | _ => false

end Settings

end Nomenclator
