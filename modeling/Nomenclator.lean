import Nomenclator.Declaration.Encoding
import Nomenclator.NamingUnit.Lemmas
import Nomenclator.NamingUnit.Run
import Nomenclator.Settings.Encoding
import Nomenclator.Settings.Overlay
import Nomenclator.Proofs.NamingUnit.Reference
import Nomenclator.Proofs.NamingUnit.Move
import Nomenclator.Proofs.NamingUnit.Growth
import Nomenclator.Proofs.NamingUnit.Change
import Nomenclator.Proofs.NamingUnit.DeclarationIndex
import Nomenclator.Proofs.NamingUnit.Monotonicity
import Nomenclator.Proofs.NamingUnit.Nesting
import Nomenclator.Proofs.NamingUnit.Consistency
import Nomenclator.Proofs.Identifier.Letter
import Nomenclator.Proofs.NamingUnit.Independence
import Nomenclator.Proofs.NamingUnit.Injectivity
import Nomenclator.Proofs.NamingUnit.Stability
import Nomenclator.Proofs.NamingUnit.ImportHeader
import Nomenclator.Proofs.Identifier.Path
import Nomenclator.Proofs.NamingUnit.OwnDeclarations
import Nomenclator.Proofs.NamingUnit.AnnotationClasses
import Nomenclator.Proofs.Identifier.Collision
import Nomenclator.Proofs.Identifier.Image
import Nomenclator.Proofs.DottedName.Separators
import Nomenclator.Proofs.NamingUnit.AliasSearch
import Nomenclator.Proofs.NamingUnit.SearchBound
import Nomenclator.Proofs.NamingUnit.PathAlias
import Nomenclator.Proofs.NamingUnit.WrittenPath
import Nomenclator.Proofs.Failure
import Nomenclator.Proofs.Json.Reading
import Nomenclator.Proofs.Declaration.Reading
import Nomenclator.Proofs.Declaration.RoundTrip
import Nomenclator.Proofs.Interop.MethodName
import Nomenclator.Proofs.Interop.Selector
import Nomenclator.Proofs.Interop.SelectorNames
import Nomenclator.Proofs.Interop.Label
import Nomenclator.Proofs.Interop.ValueType
import Nomenclator.Proofs.Interop.TypeName
import Nomenclator.Proofs.Interop.ValueName
import Nomenclator.Proofs.Interop.ReservedNamespace
import Nomenclator.Proofs.Unicode.CapitalForm
import Nomenclator.Proofs.Text.WordStart
import Nomenclator.Proofs.Interop.FieldName
import Nomenclator.Proofs.Interop.FieldClash
import Nomenclator.Proofs.Interop.DerivedName
import Nomenclator.Proofs.QualifiedName.Segments
import Nomenclator.Proofs.Declaration.Construction
import Nomenclator.Proofs.Snippet.Literal
import Nomenclator.Proofs.Snippet.Text
import Nomenclator.Proofs.Interop.NameAnnotation
import Nomenclator.Proofs.Text.Parser
import Nomenclator.Proofs.Toml.DistinctKeys
import Nomenclator.Proofs.Settings.Overlay
