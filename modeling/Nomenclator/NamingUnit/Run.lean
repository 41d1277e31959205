import Nomenclator.Interop.Annotations
import Nomenclator.NamingUnit.Imports
import Nomenclator.NamingUnit.Resolve

/-!
# Writing a unit step by step

A unit is written by a sequence of steps, each of which may change the naming state and gives an
answer to the writer. `Step` lists everything that can change the state: declarations, scopes,
direct claims, references and annotations. `run` performs a whole sequence.
-/

namespace Nomenclator.NamingUnit

open Interop (MethodNames)

/-- Something the writer of a unit does. -/
inductive Step where
  | declareTopLevel (name : String)
  | enterScope
  | exitScope
  | bindLocal (name : String)
  | claim (identifier name : String)
  | claimAlias (identifier name : String)
  /-- Asks for the identifier of a name. -/
  | resolve (name : String)
  /-- Asks for the bare identifier of a name. -/
  | bareName (name : String)
  /-- Writes a name as an identifier. -/
  | writeName (name : String)
  /-- Writes a name as its bare identifier or its full path. -/
  | writeBareOrPath (name : String)
  /-- Writes the name of an extension member, which cannot be referenced by a path. -/
  | writeExtensionMember (name : String)
  | annotateFile
  | annotateName (name : String) (exactness? : Option Bool)
  | annotateType (declaration : TypeDeclaration)
  | annotateField (field : FieldDescriptor)
  | annotateMethod (method : MethodDescriptor) (names? : Option MethodNames)
  | annotateParameter (label : String)

/-- What the writer gets from a step. -/
inductive Answer where
  | done
  | decision (granted : Bool)
  | identifier (text : String)
  | bareIdentifier? (text? : Option String)
  | snippet (snippet : Snippet)
deriving DecidableEq

/-- The outcome of a step that writes a snippet. -/
def written (result : Snippet × NamingUnit) : Option (Answer × NamingUnit) :=
  some (.snippet result.1, result.2)

/-- Performs a step. There is no answer when every alias of a name is taken. -/
def step (settings : Settings) (unit : NamingUnit) : Step → Option (Answer × NamingUnit)
  | .declareTopLevel name => some (.done, unit.declareTopLevel name)
  | .enterScope => some (.done, unit.enterScope)
  | .exitScope => some (.done, unit.exitScope)
  | .bindLocal name => some (.done, unit.bindLocal name)
  | .claim identifier name => some ((unit.claim identifier name).map .decision id)
  | .claimAlias identifier name => some ((unit.claimAlias identifier name).map .decision id)
  | .resolve name => (unit.resolve name).map (Prod.map .identifier id)
  | .bareName name => some ((unit.bareName name).map .bareIdentifier? id)
  | .writeName name | .writeExtensionMember name =>
    (unit.resolve name).map (Prod.map (.snippet ∘ .ofText) id)
  | .writeBareOrPath name => written (unit.bareOrPath name)
  | .annotateFile => written (Interop.Annotations.optIn settings unit)
  | .annotateName name exactness? =>
    written (Interop.Annotations.withName settings name exactness? unit)
  | .annotateType declaration =>
    written (Interop.Annotations.forType settings declaration unit)
  | .annotateField field => written (Interop.Annotations.forField settings field unit)
  | .annotateMethod method names? =>
    written (Interop.Annotations.forMethod settings method names? unit)
  | .annotateParameter label =>
    written (Interop.Annotations.forParameter settings label unit)

/-- Performs steps one after the other. -/
def run (settings : Settings) (unit : NamingUnit) : List Step → Option (List Answer × NamingUnit)
  | [] => some ([], unit)
  | first :: rest => do
    let (answer, next) ← step settings unit first
    let (answers, last) ← run settings next rest
    return (answer :: answers, last)

end Nomenclator.NamingUnit
