import CodeGraph.Proofs.Schema
import CodeGraph.Proofs.Transformation

/-!
# The two phases of a graph run

The batches of a run are those of its nodes followed by those of its edges.  The flush between the
phases leaves nothing behind: `sentTo_nodeCalls` and `sentTo_edgeCalls` say that each phase sends
its own records and all of them, for every batch size and whatever the destination answers.
-/

set_option autoImplicit false

namespace CodeGraph

variable {σ : Type}

def EntityGraph.calls (graph : EntityGraph) (destination : Destination σ) (state : σ)
    (batchSize : Nat) : List Batch :=
  (graph.write destination.traced ([], state) batchSize).2.calls

namespace Transformation

variable {result : Transformation} {batchSize : Nat}

def buffersBetween (result : Transformation) (batchSize : Nat) : Buffers :=
  ((Buffers.ofSize batchSize).followAll result.nodeOrders).2

def nodeCalls (result : Transformation) (batchSize : Nat) : List Batch :=
  sent ((Buffers.ofSize batchSize).followAll result.nodeOrders).1

def edgeCalls (result : Transformation) (batchSize : Nat) : List Batch :=
  sent ((result.buffersBetween batchSize).followAll (result.edgeOrders ++ [.flush])).1

/-! ## What is queued -/

theorem pushes_nodeOrders (result : Transformation) :
    pushes result.nodeOrders =
      result.nodes.map fun node => (node.nodeClass.name, node.document.toValue) := by
  have entityPushes : pushes (result.entities.map nodeOrder) =
      result.nodes.map fun node => (node.nodeClass.name, node.document.toValue) := by
    rw [pushes, nodes, List.filterMap_map, List.map_filterMap]
    apply List.filterMap_congr
    rintro ⟨qname, node?⟩ _
    cases node? <;> rfl
  rw [nodeOrders, pushes_append, entityPushes.symm]
  exact List.append_nil _

theorem pushes_edgeOrders (result : Transformation) :
    pushes result.edgeOrders =
      result.edges.map fun edge => (edge.edgeClass.name, edge.document.toValue) := by
  have relationPushes : pushes (result.relations.map edgeOrder) =
      result.edges.map fun edge => (edge.edgeClass.name, edge.document.toValue) := by
    rw [pushes, edges, List.filterMap_map, List.map_filterMap]
    apply List.filterMap_congr
    rintro ⟨relation, edge?⟩ _
    cases edge? <;> rfl
  have noneDropped : pushes (result.dropped.map droppedOrder) = [] := by
    simp [pushes, droppedOrder, Order.pushed?]
  rw [edgeOrders, pushes_append, pushes_append, relationPushes, noneDropped]
  simp [pushes, Order.pushed?]

/-! ## What is sent -/

theorem sound_buffersBetween (result : Transformation) (batchSize : Nat) :
    (result.buffersBetween batchSize).Sound :=
  (Buffers.sound_ofSize batchSize).followAll result.nodeOrders

/-- Nothing waits between the phases. -/
theorem waitingFor_buffersBetween (result : Transformation) (batchSize : Nat)
    (collection : String) :
    waitingFor collection (result.buffersBetween batchSize).waiting = [] := by
  have split : result.nodeOrders =
      (.note (classifyingEvent result.entities.length) :: result.entities.map nodeOrder ++ [.flush])
        ++ [.note (classifiedEvent result.nodes.length)] := by
    simp [nodeOrders]
  rw [buffersBetween, split, Buffers.followAll_append, Buffers.followAll_singleton]
  exact Buffers.waitingFor_flushed _ _ collection

theorem sentTo_nodeCalls (result : Transformation) (batchSize : Nat) (collection : String) :
    sentTo collection (result.nodeCalls batchSize) = pushedTo collection result.nodeOrders := by
  have conserved :=
    Buffers.sentTo_followAll (Buffers.sound_ofSize batchSize) result.nodeOrders collection
  have nothingAfter := result.waitingFor_buffersBetween batchSize collection
  rw [buffersBetween] at nothingAfter
  rw [nothingAfter, List.append_nil] at conserved
  exact conserved

theorem sentTo_edgeCalls (result : Transformation) (batchSize : Nat) (collection : String) :
    sentTo collection (result.edgeCalls batchSize) = pushedTo collection result.edgeOrders := by
  have conserved := Buffers.sentTo_followAll (result.sound_buffersBetween batchSize)
    (result.edgeOrders ++ [.flush]) collection
  have noneInFlush : pushedTo collection [.flush] = [] := rfl
  rw [Buffers.waitingFor_flushed, List.append_nil, result.waitingFor_buffersBetween,
    List.nil_append, pushedTo_append, noneInFlush, List.append_nil] at conserved
  exact conserved

theorem node_of_nodeCalls {batch : Batch} (member : batch ∈ result.nodeCalls batchSize)
    {document : Json.Value} (inBatch : document ∈ batch.documents) :
    ∃ node ∈ result.nodes,
      batch.collection = node.nodeClass.name ∧ document = node.document.toValue := by
  have isSent : document ∈ sentTo batch.collection (result.nodeCalls batchSize) :=
    mem_sentTo.mpr ⟨batch, member, rfl, inBatch⟩
  rw [sentTo_nodeCalls, mem_pushedTo, pushes_nodeOrders] at isSent
  obtain ⟨node, isNode, same⟩ := List.mem_map.mp isSent
  obtain ⟨inCollection, isDocument⟩ := Prod.mk.inj same
  exact ⟨node, isNode, inCollection.symm, isDocument.symm⟩

theorem edge_of_edgeCalls {batch : Batch} (member : batch ∈ result.edgeCalls batchSize)
    {document : Json.Value} (inBatch : document ∈ batch.documents) :
    ∃ edge ∈ result.edges,
      batch.collection = edge.edgeClass.name ∧ document = edge.document.toValue := by
  have isSent : document ∈ sentTo batch.collection (result.edgeCalls batchSize) :=
    mem_sentTo.mpr ⟨batch, member, rfl, inBatch⟩
  rw [sentTo_edgeCalls, mem_pushedTo, pushes_edgeOrders] at isSent
  obtain ⟨edge, isEdge, same⟩ := List.mem_map.mp isSent
  obtain ⟨inCollection, isDocument⟩ := Prod.mk.inj same
  exact ⟨edge, isEdge, inCollection.symm, isDocument.symm⟩

theorem nodeCalls_of_node {node : GraphNode} (member : node ∈ result.nodes) (batchSize : Nat) :
    ∃ batch ∈ result.nodeCalls batchSize,
      batch.collection = node.nodeClass.name ∧ node.document.toValue ∈ batch.documents := by
  apply mem_sentTo.mp
  rw [sentTo_nodeCalls, mem_pushedTo, pushes_nodeOrders]
  exact List.mem_map.mpr ⟨node, member, rfl⟩

theorem collection_nodeCalls {batch : Batch} (member : batch ∈ result.nodeCalls batchSize) :
    ∃ nodeClass : NodeClass, batch.collection = nodeClass.name := by
  have positive :=
    (Buffers.size_sent_followAll (Buffers.sound_ofSize batchSize) member).1
  obtain ⟨document, inBatch⟩ := List.exists_mem_of_length_pos positive
  obtain ⟨node, _, inCollection, _⟩ := node_of_nodeCalls member inBatch
  exact ⟨node.nodeClass, inCollection⟩

theorem collection_edgeCalls {batch : Batch} (member : batch ∈ result.edgeCalls batchSize) :
    ∃ edgeClass : EdgeClass, batch.collection = edgeClass.name := by
  have positive :=
    (Buffers.size_sent_followAll (result.sound_buffersBetween batchSize) member).1
  obtain ⟨document, inBatch⟩ := List.exists_mem_of_length_pos positive
  obtain ⟨edge, _, inCollection, _⟩ := edge_of_edgeCalls member inBatch
  exact ⟨edge.edgeClass, inCollection⟩

end Transformation

theorem Transformation.sent_orders (result : Transformation) (batchSize : Nat) :
    sent ((Buffers.ofSize batchSize).followAll (result.orders ++ [.flush])).1 =
      result.nodeCalls batchSize ++ result.edgeCalls batchSize := by
  rw [orders, List.append_assoc, Buffers.followAll_append, sent_append]
  rfl

/-- A run offers its node batches and then its edge batches. -/
theorem EntityGraph.calls_eq (graph : EntityGraph) (destination : Destination σ) (state : σ)
    (batchSize : Nat) :
    graph.calls destination state batchSize =
      graph.transform.nodeCalls batchSize ++ graph.transform.edgeCalls batchSize := by
  rw [calls, write_eq, ← Transformation.sent_orders]
  exact Writer.calls_finish destination state batchSize graph.transform.orders

/-! ## The collections tell the phases apart -/

/-- A batch for a collection of edges comes after all batches of nodes, and only batches of edges
follow it. -/
theorem Transformation.split_at_edge {result : Transformation} {batchSize : Nat}
    {before after : List Batch} {batch : Batch} {edgeClass : EdgeClass}
    (split : result.nodeCalls batchSize ++ result.edgeCalls batchSize = before ++ batch :: after)
    (inCollection : batch.collection = edgeClass.name) :
    ∃ between, before = result.nodeCalls batchSize ++ between ∧
      result.edgeCalls batchSize = between ++ batch :: after := by
  rcases List.append_eq_append_iff.mp split with
    ⟨between, isBefore, isEdges⟩ | ⟨rest, isNodes, isRest⟩
  · exact ⟨between, isBefore, isEdges⟩
  · cases rest with
    | nil =>
        rw [List.append_nil] at isNodes
        exact ⟨[], by rw [isNodes, List.append_nil], isRest.symm⟩
    | cons first others =>
        -- the cut would lie among the nodes, and no node goes to a collection of edges
        have isFirst : batch = first := (List.cons.inj isRest).1
        have isNode : batch ∈ result.nodeCalls batchSize := by
          rw [isNodes, isFirst]
          simp
        obtain ⟨nodeClass, isNodeClass⟩ := collection_nodeCalls isNode
        exact absurd (isNodeClass.symm.trans inCollection) (nodeClass.name_ne_name edgeClass)

/-! ## The records of a graph -/

theorem EntityGraph.node_of_routed {graph : EntityGraph} {qname : String} {nodeClass : NodeClass}
    (routed : (RoutingTable.ofGraph graph).resolve? qname = some nodeClass) :
    ∃ node ∈ graph.transform.nodes,
      node.nodeClass = nodeClass ∧ node.document.key = storageKey qname := by
  obtain ⟨entity, found, hasClass⟩ := RoutingTable.resolve?_ofGraph.mp routed
  obtain ⟨node, isNode, isClass, isKey⟩ := Entity.node?_of_nodeClass hasClass qname
  refine ⟨node, ?_, isClass, isKey⟩
  apply List.mem_filterMap.mpr
  refine ⟨(qname, some node), ?_, rfl⟩
  exact List.mem_map.mpr ⟨(qname, entity), KeyMap.get?_eq_some_iff.mp found, by rw [isNode]⟩

theorem EntityGraph.resolved_of_edge {graph : EntityGraph} {edge : GraphEdge}
    (member : edge ∈ graph.transform.edges) :
    ∃ relation ∈ graph.relations, relation.resolve (.ofGraph graph) graph = .ok edge := by
  obtain ⟨entry, inRelations, isEdge⟩ := List.mem_filterMap.mp member
  obtain ⟨relation, isRelation, rfl⟩ := List.mem_map.mp inRelations
  refine ⟨relation, isRelation, ?_⟩
  cases outcome : relation.resolve (.ofGraph graph) graph with
  | ok resolved =>
      rw [outcome] at isEdge
      rw [Option.some.inj isEdge]
  | error =>
      rw [outcome] at isEdge
      cases isEdge

end CodeGraph
