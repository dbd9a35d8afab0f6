import Scaffold.Execution
import Scaffold.Main
import Scaffold.Proofs.Splitting
import Scaffold.Proofs.Paths
import Scaffold.Proofs.Always
import Scaffold.Proofs.FieldSpelling
import Scaffold.Proofs.FieldTokens
import Scaffold.Proofs.CanonicalSpelling
import Scaffold.Proofs.IfMissing
import Scaffold.Proofs.Rerun
import Scaffold.Proofs.CaseMapping
import Scaffold.Proofs.Identifiers
import Scaffold.Proofs.Styles
import Scaffold.Proofs.Plurals
import Scaffold.Proofs.FieldSections
import Scaffold.Proofs.CopiedMembers
import Scaffold.Proofs.FlutterImports
import Scaffold.Proofs.Nesting
import Scaffold.Proofs.ClosedPrograms
import Scaffold.Proofs.NestedFiles.GoModule
import Scaffold.Proofs.NestedFiles.LaravelModule
import Scaffold.Proofs.NestedFiles.ReactFeature
import Scaffold.Proofs.NestedFiles
import Scaffold.Proofs.Descent
import Scaffold.Proofs.Containment
import Scaffold.Proofs.CompleteGenerations
import Scaffold.Proofs.Decoding
import Scaffold.Proofs.FieldRecovery
import Scaffold.Proofs.Dependencies
import Scaffold.Proofs.SourceFiles
import Scaffold.Proofs.DistinctMembers
import Scaffold.Proofs.Routes
import Scaffold.Proofs.References
import Scaffold.Proofs.GoImports
import Scaffold.Proofs.GoReferences
import Scaffold.Proofs.LaravelReferences
import Scaffold.Proofs.ReactReferences
import Scaffold.Proofs.ModuleReferences
import Scaffold.Proofs.Pages
import Scaffold.Proofs.PaginationRecovery
import Scaffold.Proofs.Registrations
import Scaffold.Proofs.Failures
import Scaffold.Proofs.Flags
import Scaffold.Proofs.Generating
import Scaffold.Proofs.Capitals
import Scaffold.Proofs.Levels
import Scaffold.Proofs.Indentation
import Scaffold.Proofs.PointerColumns
import Scaffold.Proofs.StackNames
import Scaffold.Proofs.DistinctKeys
import Scaffold.Proofs.Configurations
import Scaffold.Proofs.Precedence
