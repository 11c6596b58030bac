import CodeGraph.GraphRun
import CodeGraph.Proofs.Delivery
import CodeGraph.Proofs.Resolution

/-!
# A graph run as two lists

The passes of a graph run build nothing but a writer, a table and counters.  `Transformation` lists
what becomes of the entities and of the relations, and the orders that the writer is given for them.
Each step of a pass gives the order of its element and counts it, so by induction over the elements
a run follows those orders and counts those lists: `EntityGraph.write_eq`.
-/

set_option autoImplicit false

namespace CodeGraph

variable {σ : Type}

/-- What becomes of the entities of a graph and of their relations, in the order of the graph. -/
structure Transformation where
  entities : List (String × Option GraphNode)
  relations : List (Relation × Except Unresolved GraphEdge)

def EntityGraph.transform (graph : EntityGraph) : Transformation :=
  let table := RoutingTable.ofGraph graph
  { entities := graph.toList.map fun entry => (entry.1, entry.2.node? entry.1 graph)
    relations := graph.relations.map fun relation => (relation, relation.resolve table graph) }

def reason? : Except Unresolved GraphEdge → Option Unresolved
  | .ok _ => none
  | .error reason => some reason

namespace Transformation

def nodes (result : Transformation) : List GraphNode :=
  result.entities.filterMap Prod.snd

def edges (result : Transformation) : List GraphEdge :=
  result.relations.filterMap fun entry => entry.2.toOption

def reasons (result : Transformation) : List Unresolved :=
  result.relations.filterMap fun entry => reason? entry.2

def dropped (result : Transformation) : List (Unresolved × Nat) :=
  (Unresolved.all.map fun reason => (reason, result.reasons.count reason)).filter fun entry =>
    entry.2 ≠ 0

def nodeOrder : String × Option GraphNode → Order
  | (_, some node) => .push node.nodeClass.name node.document.toValue
  | (qname, none) => .note (unclassifiedEvent qname)

def edgeOrder : Relation × Except Unresolved GraphEdge → Order
  | (_, .ok edge) => .push edge.edgeClass.name edge.document.toValue
  | (relation, .error reason) => .note (relation.droppedEvent reason)

def nodeOrders (result : Transformation) : List Order :=
  .note (classifyingEvent result.entities.length) :: result.entities.map nodeOrder
    ++ [.flush, .note (classifiedEvent result.nodes.length)]

def edgeOrders (result : Transformation) : List Order :=
  result.relations.map edgeOrder
    ++ result.dropped.map droppedOrder
    ++ [.note (resolvedEvent result.edges.length result.relations.length)]

def orders (result : Transformation) : List Order :=
  result.nodeOrders ++ result.edgeOrders

end Transformation

/-- The numbers of a transformation whose records were sent, from the account of the writer. -/
def GraphStats.ofReport (result : Transformation) (report : WriteReport) : GraphStats where
  entities := result.entities.length
  nodesClassified := result.nodes.length
  nodesByClass := .tally (result.nodes.map fun node => node.nodeClass.name)
  nodesWritten := sumOf (NodeClass.all.map fun nodeClass => report.deliveredTo nodeClass.name)
  relations := result.relations.length
  edgesResolved := result.edges.length
  edgesByClass := .tally (result.edges.map fun edge => edge.edgeClass.name)
  edgesWritten := sumOf (EdgeClass.all.map fun edgeClass => report.deliveredTo edgeClass.name)
  dropped := .ofList (result.dropped.map fun entry => (entry.1.name, entry.2))
  failedBatches := report.failedBatches
  failedDocuments := report.failedDocuments

/-! ## The class of a node -/

theorem Entity.node?_of_nodeClass {entity : Entity} {graph : EntityGraph} {nodeClass : NodeClass}
    (hasClass : entity.nodeClass? graph = some nodeClass) (qname : String) :
    ∃ node, entity.node? qname graph = some node ∧ node.nodeClass = nodeClass ∧
      node.document.key = storageKey qname := by
  cases hasKind : entity.kind with
  | none => simp [nodeClass?, hasKind] at hasClass
  | some kind =>
      simp only [node?, hasClass, hasKind]
      exact ⟨_, rfl, rfl, rfl⟩

theorem Entity.map_nodeClass_node? (entity : Entity) (qname : String) (graph : EntityGraph) :
    (entity.node? qname graph).map GraphNode.nodeClass = entity.nodeClass? graph := by
  cases hasClass : entity.nodeClass? graph with
  | none => simp [node?, hasClass]
  | some nodeClass =>
      obtain ⟨node, isNode, isClass, _⟩ := node?_of_nodeClass hasClass qname
      rw [isNode, Option.map_some, isClass]

theorem Entity.nodeClass_of_node? {entity : Entity} {qname : String} {graph : EntityGraph}
    {node : GraphNode} (isNode : entity.node? qname graph = some node) :
    entity.nodeClass? graph = some node.nodeClass := by
  rw [← entity.map_nodeClass_node? qname, isNode, Option.map_some]

theorem EntityGraph.nodes_eq (graph : EntityGraph) :
    graph.transform.nodes = graph.toList.filterMap fun entry => entry.2.node? entry.1 graph := by
  rw [Transformation.nodes, transform, List.filterMap_map]
  rfl

/-- There are as many nodes as names with a class. -/
theorem EntityGraph.length_nodes (graph : EntityGraph) :
    graph.transform.nodes.length = (RoutingTable.ofGraph graph).size := by
  have routed : (RoutingTable.ofGraph graph).size = graph.routes.length :=
    (KeyMap.perm_ofList graph.nodup_routes).length_eq
  rw [routed, nodes_eq, routes, List.length_filterMap_eq_countP, List.length_filterMap_eq_countP]
  apply List.countP_congr
  intro entry _
  rw [← entry.2.map_nodeClass_node? entry.1 graph]
  simp

/-! ## The pass over the entities -/

/-- A pass goes over entities: their orders are followed, their nodes are routed and counted. -/
theorem NodePass.foldl_step (graph : EntityGraph) (pass : NodePass σ)
    (entries : List (String × Entity)) :
    entries.foldl (step graph) pass =
      { writer := pass.writer.followAll (entries.map fun entry =>
          Transformation.nodeOrder (entry.1, entry.2.node? entry.1 graph))
        table := (entries.filterMap fun entry =>
          (entry.2.node? entry.1 graph).map fun node => (entry.1, node.nodeClass)).foldl
            (fun table route => table.insert route.1 route.2) pass.table
        byClass := ((entries.filterMap fun entry => entry.2.node? entry.1 graph).map fun node =>
          node.nodeClass.name).foldl (fun counts name => counts.add name 1) pass.byClass } := by
  induction entries generalizing pass with
  | nil => rfl
  | cons entry later inductionHypothesis =>
      rw [List.foldl_cons, inductionHypothesis, step]
      cases isNode : entry.2.node? entry.1 graph with
      | some node => simp [isNode, Writer.followAll, Transformation.nodeOrder]
      | none => simp [isNode, Writer.followAll, Transformation.nodeOrder]

theorem RoutingTable.foldl_insert (table : RoutingTable) (routes : List (String × NodeClass)) :
    routes.foldl (fun table route => table.insert route.1 route.2) table =
      ⟨routes.foldl (fun classes route => classes.insert route.1 route.2) table.classes⟩ := by
  induction routes generalizing table with
  | nil => rfl
  | cons route later inductionHypothesis => exact inductionHypothesis (table.insert route.1 route.2)

theorem EntityGraph.classifyAll_eq (graph : EntityGraph) (writer : Writer σ) :
    graph.classifyAll writer =
      { writer := writer.followAll (graph.transform.entities.map Transformation.nodeOrder)
        table := .ofGraph graph
        byClass := .tally (graph.transform.nodes.map fun node => node.nodeClass.name) } := by
  have routed : (graph.toList.filterMap fun entry =>
      (entry.2.node? entry.1 graph).map fun node => (entry.1, node.nodeClass)) = graph.routes :=
    List.filterMap_congr fun entry _ => by
      rw [← entry.2.map_nodeClass_node? entry.1 graph, Option.map_map]
      rfl
  rw [classifyAll, NodePass.foldl_step, routed, RoutingTable.foldl_insert, nodes_eq, transform,
    List.map_map]
  rfl

/-! ## The pass over the relations -/

theorem Drops.foldl_add (drops : Drops) (reasons : List Unresolved) :
    reasons.foldl add drops =
      ⟨drops.counts.map fun entry => (entry.1, entry.2 + reasons.count entry.1)⟩ := by
  induction reasons generalizing drops with
  | nil => simp
  | cons reason later inductionHypothesis =>
      rw [List.foldl_cons, inductionHypothesis, add, List.map_map]
      congr 1
      apply List.map_congr_left
      intro entry _
      by_cases same : entry.1 = reason
      · simp [same]
        omega
      · simp [same, Ne.symm same]

theorem EdgePass.foldl_step (table : RoutingTable) (graph : EntityGraph) (pass : EdgePass σ)
    (relations : List Relation) :
    let outcomes := relations.map fun relation => (relation, relation.resolve table graph)
    relations.foldl (step table graph) pass =
      { writer := pass.writer.followAll (outcomes.map Transformation.edgeOrder)
        relations := pass.relations + relations.length
        resolved := pass.resolved + (outcomes.filterMap fun entry => entry.2.toOption).length
        byClass := ((outcomes.filterMap fun entry => entry.2.toOption).map fun edge =>
          edge.edgeClass.name).foldl (fun counts name => counts.add name 1) pass.byClass
        drops := (outcomes.filterMap fun entry => reason? entry.2).foldl Drops.add
          pass.drops } := by
  induction relations generalizing pass with
  | nil => rfl
  | cons relation later inductionHypothesis =>
      dsimp only at inductionHypothesis ⊢
      rw [List.foldl_cons, inductionHypothesis, step]
      cases outcome : relation.resolve table graph with
      | ok edge =>
          simp [outcome, Writer.followAll, Transformation.edgeOrder, Except.toOption, reason?]
          omega
      | error reason =>
          simp [outcome, Writer.followAll, Transformation.edgeOrder, Except.toOption, reason?]
          omega

theorem EntityGraph.resolveAll_eq (graph : EntityGraph) (writer : Writer σ) :
    graph.resolveAll (.ofGraph graph) writer =
      { writer := writer.followAll (graph.transform.relations.map Transformation.edgeOrder)
        relations := graph.transform.relations.length
        resolved := graph.transform.edges.length
        byClass := .tally (graph.transform.edges.map fun edge => edge.edgeClass.name)
        drops := ⟨Unresolved.all.map fun reason =>
          (reason, graph.transform.reasons.count reason)⟩ } := by
  rw [resolveAll, EdgePass.foldl_step, Drops.foldl_add]
  simp [transform, Transformation.edges, Transformation.reasons, Drops.zero, KeyMap.tally]

/-! ## The run -/

/-- A run follows the orders of its transformation, and its numbers are those of the lists. -/
theorem EntityGraph.write_eq (graph : EntityGraph) (destination : Destination σ) (state : σ)
    (batchSize : Nat) :
    let progress :=
      ((Writer.start destination state batchSize).followAll graph.transform.orders).finish
    graph.write destination state batchSize =
      (.ofReport graph.transform progress.report, progress) := by
  have entities : graph.size = graph.transform.entities.length := by
    simp [transform, size, KeyMap.size, toList]
  have orders : graph.transform.orders =
      [.note (classifyingEvent graph.size)] ++
        graph.transform.entities.map Transformation.nodeOrder ++
        [.flush, .note (classifiedEvent (RoutingTable.ofGraph graph).size)] ++
        graph.transform.relations.map Transformation.edgeOrder ++
        (graph.transform.dropped.map droppedOrder ++ [.note
          (resolvedEvent graph.transform.edges.length graph.transform.relations.length)]) := by
    simp [Transformation.orders, Transformation.nodeOrders, Transformation.edgeOrders, entities,
      length_nodes]
  dsimp only
  rw [orders]
  simp only [write, classifyAll_eq, resolveAll_eq, GraphStats.ofReport, Drops.entries,
    ← length_nodes, ← entities, Writer.followAll, List.foldl_append]
  rfl

theorem EntityGraph.stats_write (graph : EntityGraph) (destination : Destination σ) (state : σ)
    (batchSize : Nat) :
    (graph.write destination state batchSize).1 =
      .ofReport graph.transform (graph.write destination state batchSize).2.report := by
  rw [write_eq]

theorem EntityGraph.progress_write (graph : EntityGraph) (destination : Destination σ) (state : σ)
    (batchSize : Nat) :
    (graph.write destination state batchSize).2 =
      ((Writer.start destination state batchSize).followAll graph.transform.orders).finish := by
  rw [write_eq]

end CodeGraph
