import CodeGraph.Proofs.Loading
import CodeGraph.Proofs.Phases

/-!
# What a graph run writes

One pass with shared buffers writes what two lists say: for each class of nodes the records of the
entities with the class, and for each class of edges those of the relations that resolve into it
against the classes of all entities.  `graph_run_writes_records` compares the two, for every batch
size and destination.
-/

set_option autoImplicit false

namespace CodeGraph

variable {σ : Type}

namespace Transformation

theorem pushes_orders (result : Transformation) :
    pushes result.orders =
      (result.nodes.map fun node => (node.nodeClass.name, node.document.toValue)) ++
        result.edges.map fun edge => (edge.edgeClass.name, edge.document.toValue) := by
  rw [orders, pushes_append, pushes_nodeOrders, pushes_edgeOrders]

theorem pushedTo_nodeClass (result : Transformation) (nodeClass : NodeClass) :
    pushedTo nodeClass.name result.orders =
      (result.nodes.filter fun node => node.nodeClass = nodeClass).map fun node =>
        node.document.toValue := by
  have noEdge : ∀ edge : GraphEdge, edge.edgeClass.name ≠ nodeClass.name :=
    fun edge => (nodeClass.name_ne_name edge.edgeClass).symm
  rw [pushedTo, pushes_orders, List.filter_append, List.filter_map, List.filter_map]
  simp [Function.comp_def, NodeClass.name_inj, noEdge]

theorem pushedTo_edgeClass (result : Transformation) (edgeClass : EdgeClass) :
    pushedTo edgeClass.name result.orders =
      (result.edges.filter fun edge => edge.edgeClass = edgeClass).map fun edge =>
        edge.document.toValue := by
  have noNode : ∀ node : GraphNode, node.nodeClass.name ≠ edgeClass.name :=
    fun node => node.nodeClass.name_ne_name edgeClass
  rw [pushedTo, pushes_orders, List.filter_append, List.filter_map, List.filter_map]
  simp [Function.comp_def, EdgeClass.name_inj, noNode]

end Transformation

theorem EntityGraph.sentTo_calls (graph : EntityGraph) (destination : Destination σ) (state : σ)
    (batchSize : Nat) (collection : String) :
    sentTo collection (graph.calls destination state batchSize) =
      pushedTo collection graph.transform.orders := by
  rw [calls_eq, ← Transformation.sent_orders, Buffers.sentTo_flushed]

theorem RoutingTable.resolve?_ofGraph_eq (graph : EntityGraph) (qname : String) :
    (RoutingTable.ofGraph graph).resolve? qname =
      (graph.get? qname).bind fun entity => entity.nodeClass? graph := by
  apply Option.ext
  intro nodeClass
  rw [RoutingTable.resolve?_ofGraph, Option.bind_eq_some_iff]

theorem EntityGraph.nodes_filter (graph : EntityGraph) (nodeClass : NodeClass) :
    (graph.transform.nodes.filter fun node => node.nodeClass = nodeClass).map some =
      (graph.toList.filter fun entry => entry.2.nodeClass? graph = some nodeClass).map
        fun entry => entry.2.node? entry.1 graph := by
  rw [nodes_eq]
  induction graph.toList with
  | nil => rfl
  | cons entry later inductionHypothesis =>
      cases isNode : entry.2.node? entry.1 graph with
      | none =>
          have noClass : entry.2.nodeClass? graph ≠ some nodeClass := by
            intro hasClass
            obtain ⟨node, found, _⟩ := Entity.node?_of_nodeClass hasClass entry.1
            rw [isNode] at found
            cases found
          simpa [List.filterMap_cons, isNode, noClass] using inductionHypothesis
      | some node =>
          have hasClass := Entity.nodeClass_of_node? isNode
          by_cases inClass : node.nodeClass = nodeClass <;>
            simpa [List.filterMap_cons, isNode, hasClass, inClass] using inductionHypothesis

def Relation.recordIn? (relation : Relation) (edgeClass : EdgeClass) (graph : EntityGraph) :
    Option Json.Value :=
  match relation.resolve (.ofGraph graph) graph with
  | .ok edge => if edge.edgeClass = edgeClass then some edge.document.toValue else none
  | .error _ => none

theorem EntityGraph.edges_filter (graph : EntityGraph) (edgeClass : EdgeClass) :
    ((graph.transform.edges.filter fun edge => edge.edgeClass = edgeClass).map fun edge =>
        edge.document.toValue) =
      graph.toList.flatMap fun entry =>
        entry.2.relations.filterMap fun relation => relation.recordIn? edgeClass graph := by
  rw [← List.filterMap_flatMap, Transformation.edges, transform, List.filterMap_map,
    List.filter_filterMap, List.map_filterMap]
  apply List.filterMap_congr
  intro relation _
  simp only [Function.comp_def, Relation.recordIn?]
  cases relation.resolve (.ofGraph graph) graph with
  | error => rfl
  | ok edge => by_cases inClass : edge.edgeClass = edgeClass <;> simp [Except.toOption, inClass]

theorem NodeDocument.readAll_compact (document : NodeDocument) :
    Json.readAll format.read document.toValue.compact = .ok document :=
  document.reads.readAll (.same document.toValue)

theorem EdgeDocument.readAll_compact (document : EdgeDocument) :
    Json.readAll format.read document.toValue.compact = .ok document :=
  document.reads.readAll (.same document.toValue)

/-- What a run offers to each collection, for every batch size and whatever the destination answers.
A node class is offered the records of the entities that have it, each one, in the order of their
names; an edge class those of the relations that resolve into it, in the order of their entities;
and no other collection is offered anything.  From the text of what is offered the document of the
entity or relation is read back.  The table that relations resolve against has the class of every
entity, also of one that comes later. -/
theorem graph_run_writes_records (graph : EntityGraph) (destination : Destination σ) (state : σ)
    (batchSize : Nat) :
    let calls := graph.calls destination state batchSize
    (∀ nodeClass : NodeClass,
      (sentTo nodeClass.name calls).map some =
        (graph.toList.filter fun entry => entry.2.nodeClass? graph = some nodeClass).map
          fun entry => (entry.2.node? entry.1 graph).map fun node => node.document.toValue) ∧
    (∀ edgeClass : EdgeClass,
      sentTo edgeClass.name calls =
        graph.toList.flatMap fun entry =>
          entry.2.relations.filterMap fun relation => relation.recordIn? edgeClass graph) ∧
    (∀ batch ∈ calls,
      (∃ nodeClass : NodeClass, batch.collection = nodeClass.name) ∨
        ∃ edgeClass : EdgeClass, batch.collection = edgeClass.name) ∧
    (∀ nodeClass : NodeClass, ∀ document ∈ sentTo nodeClass.name calls,
      ∃ entry ∈ graph.toList, ∃ node, entry.2.node? entry.1 graph = some node ∧
        node.nodeClass = nodeClass ∧
        Json.readAll NodeDocument.format.read document.compact = .ok node.document) ∧
    (∀ edgeClass : EdgeClass, ∀ document ∈ sentTo edgeClass.name calls,
      ∃ relation ∈ graph.relations, ∃ edge, relation.resolve (.ofGraph graph) graph = .ok edge ∧
        edge.edgeClass = edgeClass ∧
        Json.readAll EdgeDocument.format.read document.compact = .ok edge.document) ∧
    (graph.toList.Pairwise fun first second => first.1 < second.1) ∧
    ∀ qname, (RoutingTable.ofGraph graph).resolve? qname =
      (graph.get? qname).bind fun entity => entity.nodeClass? graph := by
  intro calls
  refine ⟨?_, ?_, ?_, ?_, ?_, graph.entities.ordered, RoutingTable.resolve?_ofGraph_eq graph⟩
  · intro nodeClass
    have records := congrArg
      (List.map (Option.map fun node : GraphNode => node.document.toValue))
      (graph.nodes_filter nodeClass)
    rw [List.map_map, List.map_map] at records
    rw [EntityGraph.sentTo_calls, Transformation.pushedTo_nodeClass, List.map_map]
    exact records
  · intro edgeClass
    rw [EntityGraph.sentTo_calls, Transformation.pushedTo_edgeClass, EntityGraph.edges_filter]
  · intro batch member
    have phases : calls =
        graph.transform.nodeCalls batchSize ++ graph.transform.edgeCalls batchSize :=
      graph.calls_eq destination state batchSize
    rw [phases] at member
    rcases List.mem_append.mp member with isNode | isEdge
    · exact Or.inl (Transformation.collection_nodeCalls isNode)
    · exact Or.inr (Transformation.collection_edgeCalls isEdge)
  · intro nodeClass document member
    rw [EntityGraph.sentTo_calls, Transformation.pushedTo_nodeClass] at member
    obtain ⟨node, inClass, rfl⟩ := List.mem_map.mp member
    obtain ⟨isNode, isClass⟩ := List.mem_filter.mp inClass
    rw [EntityGraph.nodes_eq] at isNode
    obtain ⟨entry, isEntry, isNode⟩ := List.mem_filterMap.mp isNode
    exact ⟨entry, isEntry, node, isNode, of_decide_eq_true isClass, node.document.readAll_compact⟩
  · intro edgeClass document member
    rw [EntityGraph.sentTo_calls, Transformation.pushedTo_edgeClass] at member
    obtain ⟨edge, inClass, rfl⟩ := List.mem_map.mp member
    obtain ⟨isEdge, isClass⟩ := List.mem_filter.mp inClass
    obtain ⟨relation, isRelation, resolved⟩ := EntityGraph.resolved_of_edge isEdge
    exact ⟨relation, isRelation, edge, resolved, of_decide_eq_true isClass,
      edge.document.readAll_compact⟩

/-- A function calls one whose name comes later, in batches of one. -/
theorem graph_run_writes_records_forward :
    let caller := { Entity.named "f" .function with relations := [.between .calls "a.f" "b.g"] }
    let graph := EntityGraph.ofList [("a.f", caller), ("b.g", .named "g" .function)]
    let calls := graph.calls Memory.destination {} 1
    (sentTo "calls" calls).length = 1 ∧
      (sentTo "functions" calls).map some =
        (graph.toList.filter fun entry => entry.2.nodeClass? graph = some .functions).map
          fun entry => (entry.2.node? entry.1 graph).map fun node => node.document.toValue := by
  intro caller graph calls
  obtain ⟨nodes, edges, _⟩ := graph_run_writes_records graph Memory.destination {} 1
  refine ⟨(congrArg List.length (edges .calls)).trans ?_, nodes .functions⟩
  subst graph caller
  decide +kernel

end CodeGraph
