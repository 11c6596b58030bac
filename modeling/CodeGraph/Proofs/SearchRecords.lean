import CodeGraph.Proofs.Documents
import CodeGraph.Proofs.Delivery
import CodeGraph.SearchRun

/-!
# What a search run queues

The records of the entities that belong into the search collection, for one collection and in the
order of the entities.  The pass over the entities gives the writer these and counts them.
-/

set_option autoImplicit false

namespace CodeGraph

variable {σ : Type}

def EntityGraph.searchDocuments (graph : EntityGraph) : List SearchDocument :=
  graph.toList.filterMap fun entry => entry.2.searchDocument? entry.1

def EntityGraph.searchOrders (graph : EntityGraph) (collection : String) : List Order :=
  .note (indexingEvent graph.size)
    :: graph.searchDocuments.map fun document => .push collection document.toValue

def SearchStats.ofReport (graph : EntityGraph) (collection : String) (report : WriteReport) :
    SearchStats where
  collection := collection
  entities := graph.size
  indexed := graph.searchDocuments.length
  written := report.deliveredTo collection
  failedBatches := report.failedBatches
  failedDocuments := report.failedDocuments

theorem SearchPass.foldl_step (collection : String) (pass : SearchPass σ)
    (entries : List (String × Entity)) :
    let documents := entries.filterMap fun entry => entry.2.searchDocument? entry.1
    entries.foldl (step collection) pass =
      { writer := pass.writer.followAll
          (documents.map fun document => .push collection document.toValue)
        indexed := pass.indexed + documents.length } := by
  induction entries generalizing pass with
  | nil => rfl
  | cons entry later inductionHypothesis =>
      dsimp only at inductionHypothesis ⊢
      rw [List.foldl_cons, inductionHypothesis, step]
      cases isIndexed : entry.2.searchDocument? entry.1 with
      | some document =>
          simp [isIndexed, Writer.followAll]
          omega
      | none => simp [isIndexed]

namespace EntityGraph

variable (graph : EntityGraph) (collection : String)

theorem index_eq (destination : Destination σ) (state : σ) (batchSize : Nat) :
    let writer := (Writer.start destination state batchSize).followAll
      (graph.searchOrders collection)
    let stats := SearchStats.ofReport graph collection writer.finish.report
    graph.index collection destination state batchSize =
      (stats, { writer.finish with journal := writer.finish.journal.push stats.indexedEvent }) := by
  simp only [index, SearchPass.foldl_step, Nat.zero_add]
  rfl

theorem stats_index (destination : Destination σ) (state : σ) (batchSize : Nat) :
    (graph.index collection destination state batchSize).1 = .ofReport graph collection
      (graph.index collection destination state batchSize).2.report := by
  simp only [index_eq]

theorem indexed_index (destination : Destination σ) (state : σ) (batchSize : Nat) :
    (graph.index collection destination state batchSize).1.indexed =
      graph.searchDocuments.length := by
  rw [stats_index]
  rfl

theorem report_index (destination : Destination σ) (state : σ) (batchSize : Nat) :
    (graph.index collection destination state batchSize).2.report =
      ((Writer.start destination state batchSize).followAll
        (graph.searchOrders collection)).finish.report := by
  rw [index_eq]

theorem state_index (destination : Destination σ) (state : σ) (batchSize : Nat) :
    (graph.index collection destination state batchSize).2.state =
      ((Writer.start destination state batchSize).followAll
        (graph.searchOrders collection)).finish.state := by
  rw [index_eq]

theorem pushes_searchOrders :
    pushes (graph.searchOrders collection) =
      graph.searchDocuments.map fun document => (collection, document.toValue) := by
  simp only [pushes, searchOrders, List.filterMap_cons, Order.pushed?, List.filterMap_map,
    Function.comp_def]
  exact congrFun List.filterMap_eq_map _

theorem pushedTo_searchOrders :
    pushedTo collection (graph.searchOrders collection) =
      graph.searchDocuments.map SearchDocument.toValue := by
  simp [pushedTo, pushes_searchOrders, List.filter_map, Function.comp_def]

theorem pushedTo_searchOrders_of_ne {name : String} (different : name ≠ collection) :
    pushedTo name (graph.searchOrders collection) = [] := by
  simp [pushedTo, pushes_searchOrders, List.filter_map, Function.comp_def, different.symm]

theorem keyed_searchOrders :
    ∀ push ∈ pushes (graph.searchOrders collection), (documentKey? push.2).isSome := by
  rw [pushes_searchOrders]
  intro push member
  obtain ⟨document, _, rfl⟩ := List.mem_map.mp member
  rw [document.documentKey?_toValue]
  rfl

theorem length_searchDocuments_le : graph.searchDocuments.length ≤ graph.size :=
  List.length_filterMap_le _ _

end EntityGraph

end CodeGraph
