import CodeGraph.Resolution
import CodeGraph.Writer

/-!
# Writing the property graph

A pass over the entities classifies them, sends their nodes and fills the routing table.  When the
nodes have left, a pass over the relations resolves them against the table and sends the edges.  So
a node is sent before every edge that leads to it or comes from it.
-/

set_option autoImplicit false

namespace CodeGraph

def classifyingEvent (entities : Nat) : Event :=
  ⟨.info, "Classifying " ++ toString entities ++ " entities"⟩

def classifiedEvent (nodes : Nat) : Event :=
  ⟨.info, "Classified " ++ toString nodes ++ " nodes"⟩

def resolvedEvent (edges relations : Nat) : Event :=
  ⟨.info, "Resolved " ++ toString edges ++ " of " ++ toString relations ++ " relations into edges"⟩

/-! ## The pass over the entities -/

structure NodePass (σ : Type) where
  writer : Writer σ
  table : RoutingTable := .empty
  byClass : KeyMap Nat := .empty

def NodePass.step {σ : Type} (graph : EntityGraph) (pass : NodePass σ) (entry : String × Entity) :
    NodePass σ :=
  match entry.2.node? entry.1 graph with
  | some node =>
      { writer := pass.writer.follow (.push node.nodeClass.name node.document.toValue)
        table := pass.table.insert entry.1 node.nodeClass
        byClass := pass.byClass.add node.nodeClass.name 1 }
  | none => { pass with writer := pass.writer.follow (.note (unclassifiedEvent entry.1)) }

def EntityGraph.classifyAll {σ : Type} (graph : EntityGraph) (writer : Writer σ) : NodePass σ :=
  graph.toList.foldl (NodePass.step graph) { writer }

/-! ## The pass over the relations -/

/-- How many relations had no edge, for every reason in order. -/
structure Drops where
  counts : List (Unresolved × Nat)

namespace Drops

def zero : Drops :=
  ⟨Unresolved.all.map fun reason => (reason, 0)⟩

def add (drops : Drops) (reason : Unresolved) : Drops :=
  ⟨drops.counts.map fun entry =>
    if entry.1 = reason then (entry.1, entry.2 + 1) else entry⟩

def entries (drops : Drops) : List (Unresolved × Nat) :=
  drops.counts.filter fun entry => entry.2 ≠ 0

end Drops

def droppedOrder (entry : Unresolved × Nat) : Order :=
  .note ⟨.debug, "Dropped " ++ toString entry.2 ++ " relations: " ++ entry.1.name⟩

structure EdgePass (σ : Type) where
  writer : Writer σ
  relations : Nat := 0
  resolved : Nat := 0
  byClass : KeyMap Nat := .empty
  drops : Drops := .zero

def EdgePass.step {σ : Type} (table : RoutingTable) (graph : EntityGraph) (pass : EdgePass σ)
    (relation : Relation) : EdgePass σ :=
  let pass := { pass with relations := pass.relations + 1 }
  match relation.resolve table graph with
  | .ok edge =>
      { pass with
        writer := pass.writer.follow (.push edge.edgeClass.name edge.document.toValue)
        resolved := pass.resolved + 1
        byClass := pass.byClass.add edge.edgeClass.name 1 }
  | .error reason =>
      { pass with
        writer := pass.writer.follow (.note (relation.droppedEvent reason))
        drops := pass.drops.add reason }

def EntityGraph.resolveAll {σ : Type} (graph : EntityGraph) (table : RoutingTable)
    (writer : Writer σ) : EdgePass σ :=
  graph.relations.foldl (EdgePass.step table graph) { writer }

/-! ## The run -/

structure GraphStats where
  entities : Nat
  nodesClassified : Nat
  nodesByClass : KeyMap Nat
  nodesWritten : Nat
  relations : Nat
  edgesResolved : Nat
  edgesByClass : KeyMap Nat
  edgesWritten : Nat
  /-- The number of relations without an edge, by the name of the reason. -/
  dropped : KeyMap Nat
  failedBatches : Nat
  failedDocuments : Nat

namespace GraphStats

def droppedTotal (stats : GraphStats) : Nat :=
  stats.dropped.total

def skipped (stats : GraphStats) : Nat :=
  stats.entities - stats.nodesClassified

def failures (stats : GraphStats) : Nat :=
  stats.failedBatches + stats.failedDocuments

def members (stats : GraphStats) : List (String × Json.Value) :=
  [("entities", .ofNat stats.entities),
    ("nodes_classified", .ofNat stats.nodesClassified),
    ("nodes_by_class", .ofCounts stats.nodesByClass),
    ("nodes_written", .ofNat stats.nodesWritten),
    ("relations", .ofNat stats.relations),
    ("edges_resolved", .ofNat stats.edgesResolved),
    ("edges_by_class", .ofCounts stats.edgesByClass),
    ("edges_written", .ofNat stats.edgesWritten),
    ("dropped", .ofCounts stats.dropped),
    ("failed_batches", .ofNat stats.failedBatches),
    ("failed_documents", .ofNat stats.failedDocuments)]

end GraphStats

def graphBatchSize : Nat := 1000

def defaultGraphName : String := "codegraph"

/-- Writes the property graph of a graph of entities to a destination. -/
def EntityGraph.write {σ : Type} (graph : EntityGraph) (destination : Destination σ) (state : σ)
    (batchSize : Nat) : GraphStats × Progress σ :=
  let writer := Writer.start destination state batchSize
  let nodes := graph.classifyAll (writer.follow (.note (classifyingEvent graph.size)))
  let classified := nodes.table.size
  let between := nodes.writer.followAll [.flush, .note (classifiedEvent classified)]
  let edges := graph.resolveAll nodes.table between
  let dropped := edges.drops.entries
  let writer := edges.writer.followAll
    (dropped.map droppedOrder ++ [.note (resolvedEvent edges.resolved edges.relations)])
  let progress := writer.finish
  let report := progress.report
  ({ entities := graph.size
     nodesClassified := classified
     nodesByClass := nodes.byClass
     nodesWritten := sumOf (NodeClass.all.map fun nodeClass => report.deliveredTo nodeClass.name)
     relations := edges.relations
     edgesResolved := edges.resolved
     edgesByClass := edges.byClass
     edgesWritten := sumOf (EdgeClass.all.map fun edgeClass => report.deliveredTo edgeClass.name)
     dropped := .ofList (dropped.map fun entry => (entry.1.name, entry.2))
     failedBatches := report.failedBatches
     failedDocuments := report.failedDocuments }, progress)

end CodeGraph
