import CodeGraph.Proofs.Statistics

/-!
# Runs that are repeated

A second run into a store files the same documents again, whatever the batch sizes are.  The last
document with a key is the same one in both runs, so the second run leaves the store as it is.
-/

set_option autoImplicit false

namespace CodeGraph

theorem Writer.state_rerun {orders : List Order}
    (keyed : ∀ push ∈ pushes orders, (documentKey? push.2).isSome) (store : Store)
    (firstSize secondSize : Nat) :
    let first := ((Writer.start Store.destination store firstSize).followAll orders).finish
    ((Writer.start Store.destination first.state secondSize).followAll orders).finish.state =
      first.state := by
  intro first
  have firstFiled : first.state = store.fileAll ((pushes orders).map aloneBatch) :=
    Writer.state_finish_store keyed store firstSize
  rw [Writer.state_finish_store keyed, firstFiled, Store.fileAll_fileAll]

/-! ## What a run leaves in a store -/

namespace EntityGraph

variable (graph : EntityGraph) (store : Store) (batchSize : Nat) (collection : String)

theorem collection_write (name : String) :
    (graph.write Store.destination store batchSize).2.state.collection name =
      (store.collection name).putAll ((pushedTo name graph.transform.orders).map filed) := by
  rw [progress_write]
  exact Writer.collection_finish_store graph.transform.keyed_orders store batchSize name

theorem collection_index (name : String) :
    (graph.index collection Store.destination store batchSize).2.state.collection name =
      (store.collection name).putAll
        ((pushedTo name (graph.searchOrders collection)).map filed) := by
  rw [state_index]
  exact Writer.collection_finish_store (graph.keyed_searchOrders collection) store batchSize name

/-- A store after the nodes and edges of a graph were filed, each in the collection of its class.
The last one with a key is kept. -/
structure IsFiled (later : Store) : Prop where
  nodes : ∀ nodeClass : NodeClass,
    later.collection nodeClass.name = (store.collection nodeClass.name).putAll
      ((graph.transform.nodes.filter fun node => node.nodeClass = nodeClass).map fun node =>
        filed node.document.toValue)
  edges : ∀ edgeClass : EdgeClass,
    later.collection edgeClass.name = (store.collection edgeClass.name).putAll
      ((graph.transform.edges.filter fun edge => edge.edgeClass = edgeClass).map fun edge =>
        filed edge.document.toValue)
  others : ∀ name, name ∉ collectionNames → later.collection name = store.collection name

theorem isFiled_write :
    graph.IsFiled store (graph.write Store.destination store batchSize).2.state where
  nodes nodeClass := by
    rw [collection_write, Transformation.pushedTo_nodeClass, List.map_map]
    rfl
  edges edgeClass := by
    rw [collection_write, Transformation.pushedTo_edgeClass, List.map_map]
    rfl
  others name isOther := by
    rw [collection_write, graph.transform.pushedTo_other isOther]
    rfl

structure IsIndexed (later : Store) : Prop where
  documents : later.collection collection = (store.collection collection).putAll
    (graph.searchDocuments.map fun document => filed document.toValue)
  others : ∀ name, name ≠ collection → later.collection name = store.collection name

theorem isIndexed_index : graph.IsIndexed store collection
    (graph.index collection Store.destination store batchSize).2.state where
  documents := by
    rw [collection_index, pushedTo_searchOrders, List.map_map]
    rfl
  others name isOther := by
    rw [collection_index, graph.pushedTo_searchOrders_of_ne collection isOther]
    rfl

end EntityGraph

/-! ## Two runs -/

/-- To run again changes nothing.  Whatever a store holds and whatever the two batch sizes are, the
first run files the records of the graph, the second leaves every collection with the keys and
documents of the first, no run loses a document, and both give the same numbers. -/
theorem rerun_into_store_is_idempotent (graph : EntityGraph) (store : Store)
    (firstSize secondSize : Nat) :
    (let first := graph.write Store.destination store firstSize
      let second := graph.write Store.destination first.2.state secondSize
      second.2.state = first.2.state ∧ second.1 = first.1 ∧
        first.1.AllWritten ∧ second.1.AllWritten ∧ graph.IsFiled store first.2.state) ∧
    ∀ collection,
      let first := graph.index collection Store.destination store firstSize
      let second := graph.index collection Store.destination first.2.state secondSize
      second.2.state = first.2.state ∧ second.1 = first.1 ∧
        first.1.AllWritten ∧ second.1.AllWritten ∧
        graph.IsIndexed store collection first.2.state := by
  constructor
  · intro first second
    refine ⟨?_, ?_, graph.allWritten_write Store.accepts trivial firstSize,
      graph.allWritten_write Store.accepts trivial secondSize, graph.isFiled_write store firstSize⟩
    · simp only [second, first, EntityGraph.progress_write]
      exact Writer.state_rerun graph.transform.keyed_orders store firstSize secondSize
    · exact graph.stats_write_eq Store.accepts trivial secondSize Store.accepts trivial firstSize
  · intro collection first second
    refine ⟨?_, ?_, graph.allWritten_index collection Store.accepts trivial firstSize,
      graph.allWritten_index collection Store.accepts trivial secondSize,
      graph.isIndexed_index store firstSize collection⟩
    · simp only [second, first, EntityGraph.state_index]
      exact Writer.state_rerun (graph.keyed_searchOrders collection) store firstSize secondSize
    · exact graph.stats_index_eq collection Store.accepts trivial secondSize Store.accepts trivial
        firstSize

end CodeGraph
