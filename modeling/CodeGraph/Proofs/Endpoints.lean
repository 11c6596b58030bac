import CodeGraph.Proofs.Documents
import CodeGraph.Proofs.Phases

/-!
# The ends of edges

An edge record names the handles of two nodes.  `edges_never_dangle` says that a run has offered
both nodes before it offers the edge.
-/

set_option autoImplicit false

namespace CodeGraph

variable {σ : Type}

/-! ## Nodes come before their edges -/

def Batch.OffersNode (batch : Batch) (handle : String) : Prop :=
  ∃ (nodeClass : NodeClass) (key : String),
    handle = nodeHandle nodeClass key ∧ batch.collection = nodeClass.name ∧
      ∃ document ∈ batch.documents, document.member? "_key" = some (.text key)

/-- A name with a class in the table of a graph has its node among the node batches. -/
theorem EntityGraph.offersNode_of_routed {graph : EntityGraph} {qname : String}
    {nodeClass : NodeClass}
    (routed : (RoutingTable.ofGraph graph).resolve? qname = some nodeClass) (batchSize : Nat) :
    ∃ batch ∈ graph.transform.nodeCalls batchSize,
      batch.OffersNode (nodeHandle nodeClass (storageKey qname)) := by
  obtain ⟨node, isNode, isClass, isKey⟩ := EntityGraph.node_of_routed routed
  obtain ⟨batch, member, inCollection, inBatch⟩ :=
    Transformation.nodeCalls_of_node isNode batchSize
  rw [isClass] at inCollection
  refine ⟨batch, member, nodeClass, storageKey qname, rfl, inCollection, _, inBatch, ?_⟩
  rw [NodeDocument.member?_key, isKey]

/-- No edge dangles.  Whatever the destination answers, each end of an edge that a run offers is the
handle of a node in an earlier batch, and no batch of nodes follows one of edges.  A module is
always among the nodes, so that a parent that is inferred was offered like any other. -/
theorem edges_never_dangle (graph : EntityGraph) (destination : Destination σ) (state : σ)
    (batchSize : Nat) :
    let calls := graph.calls destination state batchSize
    (∀ before batch after, calls = before ++ batch :: after →
      ∀ edgeClass : EdgeClass, batch.collection = edgeClass.name →
        (∀ document ∈ batch.documents, ∀ field ∈ ["_from", "_to"],
          ∃ handle, document.member? field = some (.text handle) ∧
            ∃ earlier ∈ before, earlier.OffersNode handle) ∧
        ∀ later ∈ after, ∀ nodeClass : NodeClass, later.collection ≠ nodeClass.name) ∧
    ∀ qname, graph.kindOf? qname = some .sourceModule →
      ∃ batch ∈ calls, batch.OffersNode (nodeHandle .modules (storageKey qname)) := by
  intro calls
  have phases : calls =
      graph.transform.nodeCalls batchSize ++ graph.transform.edgeCalls batchSize :=
    graph.calls_eq destination state batchSize
  constructor
  · intro before batch after split edgeClass inCollection
    rw [phases] at split
    obtain ⟨between, isBefore, isEdges⟩ := Transformation.split_at_edge split inCollection
    constructor
    · intro document inBatch field isField
      have member : batch ∈ graph.transform.edgeCalls batchSize := by
        rw [isEdges]
        simp
      obtain ⟨edge, isEdge, _, rfl⟩ := Transformation.edge_of_edgeCalls member inBatch
      obtain ⟨relation, _, resolved⟩ := EntityGraph.resolved_of_edge isEdge
      obtain ⟨source, target, sourceRouted, targetRouted, isSource, isTarget⟩ :=
        Relation.resolve_ofGraph resolved
      have offered : ∀ {qname : String} {nodeClass : NodeClass},
          (RoutingTable.ofGraph graph).resolve? qname = some nodeClass →
            ∃ earlier ∈ before, earlier.OffersNode (nodeHandle nodeClass (storageKey qname)) := by
        intro qname nodeClass routed
        obtain ⟨earlier, isNode, offers⟩ := EntityGraph.offersNode_of_routed routed batchSize
        exact ⟨earlier, isBefore ▸ List.mem_append_left between isNode, offers⟩
      rcases List.mem_cons.mp isField with rfl | isTo
      · exact ⟨_, edge.document.member?_source, isSource ▸ offered sourceRouted⟩
      · rw [List.mem_singleton.mp isTo]
        exact ⟨_, edge.document.member?_target, isTarget ▸ offered targetRouted⟩
    · intro later isLater nodeClass isNodeClass
      have member : later ∈ graph.transform.edgeCalls batchSize := by
        rw [isEdges]
        simp [isLater]
      obtain ⟨laterClass, isEdgeClass⟩ := Transformation.collection_edgeCalls member
      exact nodeClass.name_ne_name laterClass (isNodeClass.symm.trans isEdgeClass)
  · intro qname isModule
    have routed := RoutingTable.resolve?_ofGraph_of_module isModule
    obtain ⟨batch, isNode, offers⟩ := EntityGraph.offersNode_of_routed routed batchSize
    exact ⟨batch, phases ▸ List.mem_append_left _ isNode, offers⟩

/-- A module with two functions of which one calls the other, in batches of two, to a destination
that refuses the first batch. -/
theorem edges_never_dangle_in_module :
    let caller := { (Entity.named "f" .function).inside "m" with
      relations := [.between .calls "m.f" "m.g", .between .functionDef "m.f" "m"] }
    let callee := (Entity.named "g" .function).inside "m"
    let graph := EntityGraph.ofList
      [("m", .named "m" .sourceModule), ("m.f", caller), ("m.g", callee)]
    let refusing : Memory := { plan := [.reject "down"] }
    let calls := graph.calls Memory.destination refusing 2
    calls.map Batch.collection = ["functions", "modules", "calls", "parent"] ∧
      ∃ edges rest, calls = calls.take 2 ++ edges :: rest ∧ edges.collection = "calls" ∧
        ∀ document ∈ edges.documents, ∃ handle, document.member? "_to" = some (.text handle) ∧
          ∃ earlier ∈ calls.take 2, earlier.OffersNode handle := by
  intro caller callee graph refusing calls
  have collections : calls.map Batch.collection = ["functions", "modules", "calls", "parent"] := by
    subst calls graph callee caller refusing
    decide +kernel
  have long : 2 < calls.length := by
    rw [← List.length_map Batch.collection, collections]
    decide
  have isCalls : calls[2].collection = "calls" := by
    have third : (calls.map Batch.collection)[2]? = some "calls" := by
      rw [collections]
      rfl
    rw [List.getElem?_map, List.getElem?_eq_getElem long] at third
    exact Option.some.inj third
  have split : calls = calls.take 2 ++ calls[2] :: calls.drop 3 := by
    rw [← List.drop_eq_getElem_cons long, List.take_append_drop]
  have ends := (edges_never_dangle graph Memory.destination refusing 2).1 _ _ _ split .calls isCalls
  exact ⟨collections, _, _, split, isCalls, fun document inBatch =>
    ends.1 document inBatch "_to" (by simp)⟩

end CodeGraph
