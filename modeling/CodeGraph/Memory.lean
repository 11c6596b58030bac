import CodeGraph.Destination
import CodeGraph.KeyMap

/-!
# A destination in memory

The batches are kept as they come, so that documents with one key stand side by side.  Its answers
can be planned ahead to see how a writer takes them.
-/

set_option autoImplicit false

namespace CodeGraph

inductive PlannedAnswer where
  | reject (reason : String)
  | missingKey
  /-- The batch is kept, and the number stated, whatever its size. -/
  | accept (count : Nat)
  | acceptAll
  deriving DecidableEq

/-- The batches kept so far, and the answers planned for the next ones.  Behind the plan every batch
is kept. -/
structure Memory where
  kept : Array Batch := #[]
  plan : List PlannedAnswer := []

namespace Memory

def keep (memory : Memory) (batch : Batch) : Memory :=
  { memory with kept := memory.kept.push batch }

def answer (batch : Batch) (memory : Memory) : Reply Memory Nat :=
  let later := { memory with plan := memory.plan.tail }
  match memory.plan.head?.getD .acceptAll with
  | .reject reason => { answer := .error (.rejected "planned" reason), state := later }
  | .missingKey => { answer := .error (.missingKey batch.collection), state := later }
  | .accept count => { answer := .ok count, state := later.keep batch }
  | .acceptAll => { answer := .ok batch.size, state := later.keep batch }

def destination : Destination Memory where
  name := "memory"
  upsert := answer

def batches (memory : Memory) : List (String × Nat) :=
  memory.kept.toList.map fun batch => (batch.collection, batch.size)

def documents (memory : Memory) (collection : String) : List Json.Value :=
  (memory.kept.toList.filter fun batch => batch.collection = collection).flatMap Batch.documents

def count (memory : Memory) (collection : String) : Nat :=
  (memory.documents collection).length

def collections (memory : Memory) : List String :=
  (KeyMap.ofList (memory.kept.toList.map fun batch => (batch.collection, ()))).keys

end Memory

end CodeGraph
