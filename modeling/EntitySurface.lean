import EntitySurface.Text.Blank
import EntitySurface.Text.Words
import EntitySurface.Text.Plural
import EntitySurface.Text.Quoted
import EntitySurface.Dictionary
import EntitySurface.Catalog
import EntitySurface.Property.Settling
import EntitySurface.Schema.Command
import EntitySurface.Json.Printer
import EntitySurface.Json.Reader
import EntitySurface.Digest.Uuid
import EntitySurface.Surface
import EntitySurface.HookChain
import EntitySurface.Derivation.Rule
import EntitySurface.Json.Entities
import EntitySurface.Json.Surfaces
import EntitySurface.Validation.Rule
import EntitySurface.Emission.Layout
import EntitySurface.Project
import EntitySurface.Emission.Stub
import EntitySurface.Emission.Manifest
import EntitySurface.Emission.Recording
import EntitySurface.Generation
import EntitySurface.Summary
import EntitySurface.FileTree
import EntitySurface.Configuration
import EntitySurface.Demo
import EntitySurface.CommandLine.Answer
import EntitySurface.Main
import EntitySurface.Json.Overviews
import EntitySurface.Json.Projects
import EntitySurface.Json.Reports
import EntitySurface.Json.Search
import EntitySurface.Proofs.Schema.Finishing
import EntitySurface.Proofs.Schema.Legacy
import EntitySurface.Proofs.Schema.Companions
import EntitySurface.Proofs.Schema.Weaving
import EntitySurface.Proofs.Schema.Search
import EntitySurface.Proofs.Schema.Generation
import EntitySurface.Proofs.Surface.Ledger
import EntitySurface.Proofs.Schema.Interruption
import EntitySurface.Proofs.Schema.SearchResults
import EntitySurface.Proofs.Search.Rendering
import EntitySurface.Proofs.Surface.Integrity
import EntitySurface.Proofs.Schema.Manifest
import EntitySurface.Proofs.Schema.Paths
import EntitySurface.Proofs.Schema.Arguments
import EntitySurface.Proofs.Schema.Placement
import EntitySurface.Proofs.Schema.Acceptance
import EntitySurface.Proofs.Schema.References
import EntitySurface.Proofs.Schema.Independence
import EntitySurface.Proofs.Schema.Recovery
import EntitySurface.Proofs.Schema.BulkWeaving
import EntitySurface.Proofs.Emission.Sessions
import EntitySurface.Proofs.Schema.LaterRules
import EntitySurface.Proofs.Schema.Settings
import EntitySurface.Proofs.Json.Manifests
import EntitySurface.Proofs.Schema.HookOrder
import EntitySurface.Proofs.Schema.SearchInputs
import EntitySurface.Proofs.Schema.Creation
import EntitySurface.Proofs.Schema.Numbering
import EntitySurface.Proofs.Schema.LinkAttachments
import EntitySurface.Proofs.Schema.StubFunctions
import EntitySurface.Proofs.Schema.Categories
import EntitySurface.Proofs.Schema.Lookup
import EntitySurface.Proofs.Schema.OperationIds
import EntitySurface.Proofs.Schema.DerivedNames
import EntitySurface.Proofs.Search.DateRanges
import EntitySurface.Proofs.Schema.ColumnLookups
