import CodeCatalog.Program
import CodeCatalog.Proofs.Catalog.Outcome
import CodeCatalog.Proofs.Catalog.Policies
import CodeCatalog.Proofs.Catalog.Progress
import CodeCatalog.Proofs.Catalog.RoundTrip
import CodeCatalog.Proofs.Collection.Agreement
import CodeCatalog.Proofs.Collection.Loading
import CodeCatalog.Proofs.Collection.Locating
import CodeCatalog.Proofs.Units.Spans
import CodeCatalog.Proofs.Units.Traversal
import CodeCatalog.Proofs.Units.Nesting
import CodeCatalog.Proofs.Units.Comments
import CodeCatalog.Proofs.Units.Concatenation
import CodeCatalog.Proofs.Discovery.Walk
import CodeCatalog.Proofs.Discovery.Relocation
import CodeCatalog.Proofs.Files.Opening
import CodeCatalog.Proofs.Collection.Appending
import CodeCatalog.Proofs.Cli.Artifacts
import CodeCatalog.Proofs.Cli.Priority
import CodeCatalog.Proofs.Collection.Flattening
import CodeCatalog.Proofs.Collection.Reloading
import CodeCatalog.Proofs.Collection.Rejection
import CodeCatalog.Proofs.Units.Endings
import CodeCatalog.Proofs.Units.Parameters
import CodeCatalog.Proofs.Units.Bindings
import CodeCatalog.Proofs.Syntax.Extras
import CodeCatalog.Proofs.Units.Readers
import CodeCatalog.Proofs.Units.Continuations
import CodeCatalog.Proofs.Discovery.Exclusion
import CodeCatalog.Proofs.Python.Acceptance
import CodeCatalog.Proofs.Units.Order
import CodeCatalog.Proofs.Units.Parentheses
import CodeCatalog.Proofs.Discovery.Extensions
import CodeCatalog.Proofs.Config.Overrides
import CodeCatalog.Proofs.Catalog.Bounds
import CodeCatalog.Proofs.Cli.Announcements
import CodeCatalog.Proofs.Cli.Initialization
import CodeCatalog.Proofs.Collection.Indexing
import CodeCatalog.Proofs.Text.Rows
