import CodeGraph.SearchDocument
import CodeGraph.Writer

/-!
# Writing the search documents

One pass over the entities sends a record of every one that belongs into the search collection.
-/

set_option autoImplicit false

namespace CodeGraph

def indexingEvent (entities : Nat) : Event :=
  ⟨.info, "Building search documents for " ++ toString entities ++ " entities"⟩

structure SearchPass (σ : Type) where
  writer : Writer σ
  indexed : Nat := 0

def SearchPass.step {σ : Type} (collection : String) (pass : SearchPass σ)
    (entry : String × Entity) : SearchPass σ :=
  match entry.2.searchDocument? entry.1 with
  | some document =>
      { writer := pass.writer.follow (.push collection document.toValue)
        indexed := pass.indexed + 1 }
  | none => pass

structure SearchStats where
  collection : String
  entities : Nat
  indexed : Nat
  written : Nat
  failedBatches : Nat
  failedDocuments : Nat

namespace SearchStats

def failures (stats : SearchStats) : Nat :=
  stats.failedBatches + stats.failedDocuments

def members (stats : SearchStats) : List (String × Json.Value) :=
  [("collection", .text stats.collection),
    ("entities", .ofNat stats.entities),
    ("indexed", .ofNat stats.indexed),
    ("written", .ofNat stats.written),
    ("failed_batches", .ofNat stats.failedBatches),
    ("failed_documents", .ofNat stats.failedDocuments)]

end SearchStats

def searchBatchSize : Nat := 100

def defaultSearchCollection : String := "code_nodes"

def SearchStats.indexedEvent (stats : SearchStats) : Event :=
  ⟨.info, "Indexed " ++ toString stats.written ++ " documents into " ++ stats.collection⟩

/-- Writes the search documents of a graph of entities to a collection of a destination. -/
def EntityGraph.index {σ : Type} (graph : EntityGraph) (collection : String)
    (destination : Destination σ) (state : σ) (batchSize : Nat) : SearchStats × Progress σ :=
  let writer := (Writer.start destination state batchSize).follow (.note (indexingEvent graph.size))
  let pass := graph.toList.foldl (SearchPass.step collection) { writer }
  let progress := pass.writer.finish
  let stats : SearchStats :=
    { collection
      entities := graph.size
      indexed := pass.indexed
      written := progress.report.deliveredTo collection
      failedBatches := progress.report.failedBatches
      failedDocuments := progress.report.failedDocuments }
  (stats, { progress with journal := progress.journal.push stats.indexedEvent })

end CodeGraph
