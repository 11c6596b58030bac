import CodeGraph.Proofs.Acceptance
import CodeGraph.Proofs.GraphRecords
import CodeGraph.Proofs.SearchRecords
import CodeGraph.Session

/-!
# The numbers of a run

The counts of what was made come from the records, those of what was written from the account of the
writer.  They balance whatever a destination answers, and where it takes everything they agree.
-/

set_option autoImplicit false

namespace CodeGraph

variable {σ τ : Type}

structure GraphStats.Balances (stats : GraphStats) : Prop where
  relations : stats.relations = stats.edgesResolved + stats.droppedTotal
  nodesByClass : stats.nodesClassified = stats.nodesByClass.total
  edgesByClass : stats.edgesResolved = stats.edgesByClass.total
  nodesWritten_le : stats.nodesWritten ≤ stats.nodesClassified
  nodesClassified_le : stats.nodesClassified ≤ stats.entities
  edgesWritten_le : stats.edgesWritten ≤ stats.edgesResolved
  documents : stats.nodesWritten + stats.edgesWritten + stats.failedDocuments =
    stats.nodesClassified + stats.edgesResolved

/-- The runs made the same of their graphs, whatever they wrote. -/
structure GraphStats.SameRecords (first second : GraphStats) : Prop where
  entities : first.entities = second.entities
  nodesClassified : first.nodesClassified = second.nodesClassified
  nodesByClass : first.nodesByClass = second.nodesByClass
  relations : first.relations = second.relations
  edgesResolved : first.edgesResolved = second.edgesResolved
  edgesByClass : first.edgesByClass = second.edgesByClass
  dropped : first.dropped = second.dropped

structure GraphStats.AllWritten (stats : GraphStats) : Prop where
  nodes : stats.nodesWritten = stats.nodesClassified
  edges : stats.edgesWritten = stats.edgesResolved
  failedBatches : stats.failedBatches = 0
  failedDocuments : stats.failedDocuments = 0

structure SearchStats.Balances (stats : SearchStats) : Prop where
  documents : stats.written + stats.failedDocuments = stats.indexed
  indexed_le : stats.indexed ≤ stats.entities

structure SearchStats.AllWritten (stats : SearchStats) : Prop where
  documents : stats.written = stats.indexed
  failedBatches : stats.failedBatches = 0
  failedDocuments : stats.failedDocuments = 0

/-! ## What was made -/

theorem Unresolved.mem_all (reason : Unresolved) : reason ∈ all := by
  cases reason <;> decide

namespace Transformation

theorem length_nodes_le (result : Transformation) : result.nodes.length ≤ result.entities.length :=
  List.length_filterMap_le _ _

theorem length_edges_add_reasons (result : Transformation) :
    result.edges.length + result.reasons.length = result.relations.length := by
  have otherwise : ∀ outcome : Except Unresolved GraphEdge,
      (reason? outcome).isSome = !outcome.toOption.isSome := by
    intro outcome
    cases outcome <;> rfl
  have split := List.length_eq_countP_add_countP
    (fun entry : Relation × Except Unresolved GraphEdge => entry.2.toOption.isSome)
    (l := result.relations)
  rw [edges, reasons, List.length_filterMap_eq_countP, List.length_filterMap_eq_countP, split]
  simp only [otherwise]
  congr 1
  apply List.countP_congr
  simp

theorem total_dropped (result : Transformation) :
    (KeyMap.ofList (result.dropped.map fun entry => (entry.1.name, entry.2))).total =
      result.reasons.length := by
  have distinct : ((result.dropped.map fun entry => (entry.1.name, entry.2)).map
      Prod.fst).Nodup := by
    have kept : (result.dropped.map fun entry => entry.1.name).Sublist
        (Unresolved.all.map Unresolved.name) := by
      have counted := (List.filter_sublist (p := fun entry : Unresolved × Nat => entry.2 ≠ 0)
        (l := Unresolved.all.map fun reason => (reason, result.reasons.count reason))).map
          fun entry => entry.1.name
      rw [List.map_map] at counted
      exact counted
    have allDistinct : (Unresolved.all.map Unresolved.name).Nodup := by decide
    rw [List.map_map]
    exact kept.nodup allDistinct
  rw [KeyMap.total_ofList distinct, List.map_map, dropped]
  exact sumOf_positiveCounts (by decide) result.reasons fun reason _ => reason.mem_all

end Transformation

/-! ## What is queued -/

namespace Transformation

theorem keyed_orders (result : Transformation) :
    ∀ push ∈ pushes result.orders, (documentKey? push.2).isSome := by
  intro push member
  rw [pushes_orders] at member
  rcases List.mem_append.mp member with isNode | isEdge
  · obtain ⟨node, _, rfl⟩ := List.mem_map.mp isNode
    simp [node.document.documentKey?_toValue]
  · obtain ⟨edge, _, rfl⟩ := List.mem_map.mp isEdge
    simp [edge.document.documentKey?_toValue]

theorem countP_givesUp_orders (result : Transformation) :
    result.orders.countP Order.givesUp = 0 := by
  apply List.countP_eq_zero.mpr
  intro order member
  simp only [orders, nodeOrders, edgeOrders, List.mem_append, List.mem_cons, List.mem_map,
    List.not_mem_nil, or_false] at member
  rcases member with ((rfl | ⟨⟨_, _ | _⟩, _, rfl⟩) | rfl | rfl) |
    ((⟨⟨_, _ | _⟩, _, rfl⟩ | ⟨_, _, rfl⟩) | rfl) <;>
    simp [Order.givesUp, nodeOrder, edgeOrder, droppedOrder]

theorem sumOf_nodeClasses (result : Transformation) :
    sumOf (NodeClass.all.map fun nodeClass =>
        (pushedTo nodeClass.name result.orders).length) = result.nodes.length := by
  simp only [pushedTo_nodeClass, List.length_map]
  exact length_groups GraphNode.nodeClass (by decide) result.nodes fun node _ =>
    node.nodeClass.mem_all

theorem sumOf_edgeClasses (result : Transformation) :
    sumOf (EdgeClass.all.map fun edgeClass =>
        (pushedTo edgeClass.name result.orders).length) = result.edges.length := by
  simp only [pushedTo_edgeClass, List.length_map]
  exact length_groups GraphEdge.edgeClass (by decide) result.edges fun edge _ =>
    edge.edgeClass.mem_all

end Transformation

theorem EntityGraph.countP_givesUp_searchOrders (graph : EntityGraph) (collection : String) :
    (graph.searchOrders collection).countP Order.givesUp = 0 := by
  apply List.countP_eq_zero.mpr
  intro order member
  rcases List.mem_cons.mp member with rfl | isPush
  · exact Bool.false_ne_true
  · obtain ⟨document, _, rfl⟩ := List.mem_map.mp isPush
    exact Bool.false_ne_true

/-! ## What was written -/

def collectionNames : List String :=
  NodeClass.all.map NodeClass.name ++ EdgeClass.all.map EdgeClass.name

theorem Transformation.mem_collectionNames (result : Transformation) {push : String × Json.Value}
    (member : push ∈ pushes result.orders) : push.1 ∈ collectionNames := by
  rw [pushes_orders] at member
  rcases List.mem_append.mp member with isNode | isEdge
  · obtain ⟨node, _, rfl⟩ := List.mem_map.mp isNode
    exact List.mem_append_left _ (List.mem_map_of_mem node.nodeClass.mem_all)
  · obtain ⟨edge, _, rfl⟩ := List.mem_map.mp isEdge
    exact List.mem_append_right _ (List.mem_map_of_mem edge.edgeClass.mem_all)

theorem Transformation.pushedTo_other (result : Transformation) {name : String}
    (isOther : name ∉ collectionNames) : pushedTo name result.orders = [] :=
  List.eq_nil_iff_forall_not_mem.mpr fun _ member =>
    isOther (result.mem_collectionNames (mem_pushedTo.mp member))

section Written

variable (result : Transformation) (graph : EntityGraph) (collection : String)
  (destination : Destination σ) (state : σ) (batchSize : Nat)

theorem Transformation.written_eq_totalDelivered :
    let report := ((Writer.start destination state batchSize).followAll result.orders).finish.report
    let stats := GraphStats.ofReport result report
    stats.nodesWritten + stats.edgesWritten = report.totalDelivered := by
  intro report stats
  have grouped : sumOf (collectionNames.map report.deliveredTo) = report.totalDelivered :=
    Writer.sumOf_deliveredTo destination state batchSize (by decide) fun _ =>
      result.mem_collectionNames
  rw [collectionNames, List.map_append, sumOf_append, List.map_map, List.map_map] at grouped
  exact grouped

theorem EntityGraph.indexed_eq_totalDelivered :
    let report := ((Writer.start destination state batchSize).followAll
      (graph.searchOrders collection)).finish.report
    report.deliveredTo collection = report.totalDelivered := by
  have known : ∀ push ∈ pushes (graph.searchOrders collection), push.1 ∈ [collection] := by
    intro push member
    rw [pushes_searchOrders] at member
    obtain ⟨document, _, rfl⟩ := List.mem_map.mp member
    exact List.mem_singleton_self collection
  exact Writer.sumOf_deliveredTo destination state batchSize (List.nodup_singleton collection)
    known

theorem Transformation.balances_ofReport :
    (GraphStats.ofReport result ((Writer.start destination state batchSize).followAll
      result.orders).finish.report).Balances where
  relations := by
    have split := result.length_edges_add_reasons
    have dropped := result.total_dropped
    exact split.symm.trans (congrArg (result.edges.length + ·) dropped.symm)
  nodesByClass := by
    have counted := KeyMap.total_tally (result.nodes.map fun node => node.nodeClass.name)
    rw [List.length_map] at counted
    exact counted.symm
  edgesByClass := by
    have counted := KeyMap.total_tally (result.edges.map fun edge => edge.edgeClass.name)
    rw [List.length_map] at counted
    exact counted.symm
  nodesWritten_le := by
    refine Nat.le_trans (sumOf_le_sumOf fun nodeClass _ => ?_)
      (Nat.le_of_eq result.sumOf_nodeClasses)
    exact Writer.deliveredTo_finish_le destination state batchSize _ nodeClass.name
  nodesClassified_le := result.length_nodes_le
  edgesWritten_le := by
    refine Nat.le_trans (sumOf_le_sumOf fun edgeClass _ => ?_)
      (Nat.le_of_eq result.sumOf_edgeClasses)
    exact Writer.deliveredTo_finish_le destination state batchSize _ edgeClass.name
  documents := by
    have conserved := Writer.totalDelivered_finish destination state batchSize result.orders
    rw [countP_givesUp_orders, Nat.zero_add, pushes_orders, List.length_append, List.length_map,
      List.length_map] at conserved
    rw [written_eq_totalDelivered]
    exact conserved

theorem EntityGraph.balances_write :
    (graph.write destination state batchSize).1.Balances := by
  rw [write_eq]
  exact graph.transform.balances_ofReport destination state batchSize

theorem EntityGraph.balances_index :
    (graph.index collection destination state batchSize).1.Balances := by
  rw [index_eq]
  constructor
  case documents =>
    have conserved := Writer.totalDelivered_finish destination state batchSize
      (graph.searchOrders collection)
    rw [countP_givesUp_searchOrders, Nat.zero_add, pushes_searchOrders, List.length_map]
      at conserved
    exact (congrArg (· + _) (graph.indexed_eq_totalDelivered ..)).trans conserved
  case indexed_le => exact graph.length_searchDocuments_le

end Written

/-! ## Runs that lose nothing -/

namespace WriteReport.Complete

theorem allWritten_graph {result : Transformation} {report : WriteReport}
    (complete : report.Complete result.orders) :
    (GraphStats.ofReport result report).AllWritten where
  nodes := by
    refine Eq.trans ?_ result.sumOf_nodeClasses
    exact congrArg sumOf (List.map_congr_left fun nodeClass _ => complete.deliveredTo _)
  edges := by
    refine Eq.trans ?_ result.sumOf_edgeClasses
    exact congrArg sumOf (List.map_congr_left fun edgeClass _ => complete.deliveredTo _)
  failedBatches := complete.failedBatches
  failedDocuments := complete.failedDocuments

theorem allWritten_search {graph : EntityGraph} {collection : String} {report : WriteReport}
    (complete : report.Complete (graph.searchOrders collection)) :
    (SearchStats.ofReport graph collection report).AllWritten where
  documents := by
    have written := complete.deliveredTo collection
    rw [EntityGraph.pushedTo_searchOrders, List.length_map] at written
    exact written
  failedBatches := complete.failedBatches
  failedDocuments := complete.failedDocuments

/-- Accounts of runs that lose nothing are the same account. -/
theorem deliveredTo_eq {first second : WriteReport} {orders : List Order}
    (firstComplete : first.Complete orders) (secondComplete : second.Complete orders) :
    first.deliveredTo = second.deliveredTo :=
  funext fun collection =>
    (firstComplete.deliveredTo collection).trans (secondComplete.deliveredTo collection).symm

end WriteReport.Complete

section Accepted

variable {destination : Destination σ} {ready : σ → Prop} {state : σ}

theorem EntityGraph.complete_write (graph : EntityGraph)
    (accepts : destination.Accepts ready Batch.Keyed) (isReady : ready state) (batchSize : Nat) :
    (graph.write destination state batchSize).2.report.Complete graph.transform.orders := by
  rw [graph.progress_write]
  exact Writer.complete_finish accepts isReady
    (Batch.keyed_of_pushes batchSize graph.transform.keyed_orders)
    (List.countP_eq_zero.mp graph.transform.countP_givesUp_orders)

theorem EntityGraph.complete_index (graph : EntityGraph) (collection : String)
    (accepts : destination.Accepts ready Batch.Keyed) (isReady : ready state) (batchSize : Nat) :
    (graph.index collection destination state batchSize).2.report.Complete
      (graph.searchOrders collection) := by
  rw [graph.report_index]
  exact Writer.complete_finish accepts isReady
    (Batch.keyed_of_pushes batchSize (graph.keyed_searchOrders collection))
    (List.countP_eq_zero.mp (graph.countP_givesUp_searchOrders collection))

theorem EntityGraph.allWritten_write (graph : EntityGraph)
    (accepts : destination.Accepts ready Batch.Keyed) (isReady : ready state) (batchSize : Nat) :
    (graph.write destination state batchSize).1.AllWritten := by
  rw [graph.stats_write]
  exact (graph.complete_write accepts isReady batchSize).allWritten_graph

theorem EntityGraph.allWritten_index (graph : EntityGraph) (collection : String)
    (accepts : destination.Accepts ready Batch.Keyed) (isReady : ready state) (batchSize : Nat) :
    (graph.index collection destination state batchSize).1.AllWritten := by
  rw [graph.stats_index]
  exact (graph.complete_index collection accepts isReady batchSize).allWritten_search

end Accepted

theorem GraphStats.sameRecords_ofReport (result : Transformation) (first second : WriteReport) :
    (ofReport result first).SameRecords (ofReport result second) :=
  ⟨rfl, rfl, rfl, rfl, rfl, rfl, rfl⟩

theorem GraphStats.ofReport_eq {result : Transformation} {first second : WriteReport}
    (firstComplete : first.Complete result.orders)
    (secondComplete : second.Complete result.orders) :
    ofReport result first = ofReport result second := by
  simp only [ofReport, firstComplete.deliveredTo_eq secondComplete, firstComplete.failedBatches,
    secondComplete.failedBatches, firstComplete.failedDocuments, secondComplete.failedDocuments]

theorem SearchStats.ofReport_eq {graph : EntityGraph} {collection : String}
    {first second : WriteReport} (firstComplete : first.Complete (graph.searchOrders collection))
    (secondComplete : second.Complete (graph.searchOrders collection)) :
    ofReport graph collection first = ofReport graph collection second := by
  simp only [ofReport, firstComplete.deliveredTo_eq secondComplete, firstComplete.failedBatches,
    secondComplete.failedBatches, firstComplete.failedDocuments, secondComplete.failedDocuments]

section TwoRuns

variable {first : Destination σ} {firstReady : σ → Prop} {state : σ} {second : Destination τ}
  {secondReady : τ → Prop} {other : τ}

/-- Runs that lose nothing have the same numbers. -/
theorem EntityGraph.stats_write_eq (graph : EntityGraph)
    (accepts : first.Accepts firstReady Batch.Keyed) (isReady : firstReady state) (size : Nat)
    (otherAccepts : second.Accepts secondReady Batch.Keyed) (otherIsReady : secondReady other)
    (otherSize : Nat) :
    (graph.write first state size).1 = (graph.write second other otherSize).1 := by
  rw [graph.stats_write first, graph.stats_write second]
  exact GraphStats.ofReport_eq (graph.complete_write accepts isReady size)
    (graph.complete_write otherAccepts otherIsReady otherSize)

theorem EntityGraph.stats_index_eq (graph : EntityGraph) (collection : String)
    (accepts : first.Accepts firstReady Batch.Keyed) (isReady : firstReady state) (size : Nat)
    (otherAccepts : second.Accepts secondReady Batch.Keyed) (otherIsReady : secondReady other)
    (otherSize : Nat) :
    (graph.index collection first state size).1 =
      (graph.index collection second other otherSize).1 := by
  rw [graph.stats_index collection first, graph.stats_index collection second]
  exact SearchStats.ofReport_eq (graph.complete_index collection accepts isReady size)
    (graph.complete_index collection otherAccepts otherIsReady otherSize)

end TwoRuns

theorem EntityGraph.inspect_fst (graph : EntityGraph) :
    graph.inspect.1 =
      ⟨some (graph.write Memory.destination {} graphBatchSize).1,
        some (graph.index defaultSearchCollection Memory.destination {} searchBatchSize).1⟩ := by
  unfold inspect
  cases graph.write Memory.destination {} graphBatchSize
  cases graph.index defaultSearchCollection Memory.destination {} searchBatchSize
  rfl

/-- The numbers of a run add up, whatever the destination answers.  What the records are, and how
many, does not depend on the destination and the batch size.  A destination that takes every batch
with keys is written everything; that is so in memory and for a store, and so the numbers of an
inspection are those of the run into a store. -/
theorem run_statistics_balance (graph : EntityGraph) (collection : String)
    (destination : Destination σ) (state : σ) (batchSize : Nat) (other : Destination τ)
    (otherState : τ) (otherSize : Nat) :
    let stats := (graph.write destination state batchSize).1
    let search := (graph.index collection destination state batchSize).1
    let otherStats := (graph.write other otherState otherSize).1
    let otherSearch := (graph.index collection other otherState otherSize).1
    stats.Balances ∧
    stats.nodesClassified = (RoutingTable.ofGraph graph).size ∧
    stats.skipped + stats.nodesClassified = stats.entities ∧
    search.Balances ∧
    search.indexed = graph.searchDocuments.length ∧
    stats.SameRecords otherStats ∧
    search.entities = otherSearch.entities ∧ search.indexed = otherSearch.indexed ∧
    (∀ ready, destination.Accepts ready Batch.Keyed → ready state →
      stats.AllWritten ∧ search.AllWritten) ∧
    (∀ memory : Memory, memory.plan = [] →
      (graph.write Memory.destination memory batchSize).1.AllWritten ∧
      (graph.index collection Memory.destination memory batchSize).1.AllWritten) ∧
    ∀ store : Store,
      (graph.write Store.destination store batchSize).1.AllWritten ∧
      (graph.index collection Store.destination store batchSize).1.AllWritten ∧
      graph.inspect.1.graph = some (graph.write Store.destination store batchSize).1 ∧
      graph.inspect.1.search =
        some (graph.index defaultSearchCollection Store.destination store batchSize).1 := by
  intro stats search otherStats otherSearch
  have balanced : stats.Balances := graph.balances_write destination state batchSize
  have made : stats = .ofReport graph.transform _ := graph.stats_write destination state batchSize
  have otherMade : otherStats = .ofReport graph.transform _ :=
    graph.stats_write other otherState otherSize
  have indexed := graph.indexed_index collection destination state batchSize
  refine ⟨balanced, ?_, ?_, graph.balances_index collection destination state batchSize, indexed,
    ?_, rfl, indexed.trans (graph.indexed_index collection other otherState otherSize).symm,
    ?_, ?_, ?_⟩
  · rw [made]
    exact graph.length_nodes
  · exact Nat.sub_add_cancel balanced.nodesClassified_le
  · rw [made, otherMade]
    exact GraphStats.sameRecords_ofReport graph.transform _ _
  · intro ready accepts isReady
    exact ⟨graph.allWritten_write accepts isReady batchSize,
      graph.allWritten_index collection accepts isReady batchSize⟩
  · intro memory unplanned
    exact ⟨graph.allWritten_write (Memory.accepts _) unplanned batchSize,
      graph.allWritten_index collection (Memory.accepts _) unplanned batchSize⟩
  · intro store
    refine ⟨graph.allWritten_write Store.accepts trivial batchSize,
      graph.allWritten_index collection Store.accepts trivial batchSize, ?_, ?_⟩
    · rw [graph.inspect_fst, graph.stats_write_eq (Memory.accepts _) rfl graphBatchSize
        Store.accepts trivial batchSize]
    · rw [graph.inspect_fst, graph.stats_index_eq _ (Memory.accepts _) rfl searchBatchSize
        Store.accepts trivial batchSize]

/-- A module and a function with a call of a name that is missing, in batches of one, to a
destination that refuses the first batch, and to one that takes them all. -/
theorem run_statistics_balance_refused :
    let caller := { (Entity.named "f" .function).inside "m" with
      relations := [.between .functionDef "m.f" "m", .between .calls "m.f" "m.g"] }
    let graph := EntityGraph.ofList [("m", .named "m" .sourceModule), ("m.f", caller)]
    let refusing : Memory := { plan := [.reject "down"] }
    let stats := (graph.write Memory.destination refusing 1).1
    stats.nodesClassified = 2 ∧ stats.nodesWritten = 1 ∧ stats.edgesWritten = 1 ∧
      stats.failedDocuments = 1 ∧ stats.droppedTotal = 1 ∧ stats.Balances ∧
      (graph.write Memory.destination {} 1).1.AllWritten := by
  intro caller graph refusing stats
  have balance := run_statistics_balance graph "code_nodes" Memory.destination refusing 1
    Memory.destination {} 1
  obtain ⟨balanced, _, _, _, _, _, _, _, _, inMemory, _⟩ := balance
  exact ⟨by decide +kernel, by decide +kernel, by decide +kernel, by decide +kernel,
    by decide +kernel, balanced, (inMemory {} rfl).1⟩

end CodeGraph
