import CodeGraph.Main
import CodeGraph.Proofs.Conformance
import CodeGraph.Proofs.DryRun
import CodeGraph.Proofs.Growth
import CodeGraph.Proofs.Loading
import CodeGraph.Proofs.Rerun
import CodeGraph.Proofs.SearchIndex
import CodeGraph.Proofs.Upserts
import CodeGraph.Proofs.StoreDirectories
import CodeGraph.Proofs.Clearing
import CodeGraph.Proofs.RelationOrder
import CodeGraph.Proofs.Readiness
import CodeGraph.Proofs.ExitStatus
import CodeGraph.Proofs.ScopeWalk
import CodeGraph.Proofs.Representable
import CodeGraph.Proofs.EdgeIdentity
import CodeGraph.Proofs.Construction
import CodeGraph.Proofs.ConstructorCalls
import CodeGraph.Proofs.Merging
import CodeGraph.Proofs.Framing
import CodeGraph.Proofs.Text.Lines
import CodeGraph.Proofs.ImportAnswers
import CodeGraph.Proofs.ImportCounts
import CodeGraph.Proofs.SchemaAnswers
import CodeGraph.Proofs.Spellings
import CodeGraph.Proofs.Json.Grammar
import CodeGraph.Proofs.Json.Skipping
import CodeGraph.Proofs.Json.Decoding
import CodeGraph.Proofs.Json.Composites
import CodeGraph.Proofs.Json.Slots
import CodeGraph.Proofs.Json.Shapes
import CodeGraph.Proofs.KnownFields
import CodeGraph.Proofs.SnakeCase
import CodeGraph.Proofs.Text.Trimming
import CodeGraph.Proofs.NormalAddresses
import CodeGraph.Proofs.DefaultPort
import CodeGraph.Proofs.BufferPlaces
import CodeGraph.Proofs.NodeHandles
import CodeGraph.Proofs.Databases
