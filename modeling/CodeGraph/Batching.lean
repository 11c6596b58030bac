import CodeGraph.Destination
import CodeGraph.KeyMap

/-!
# Batching

Documents wait in a buffer of their collection until there are enough of them for a batch.  The
buffers stand in the order in which their collections came first, and an index beside them says
where the one of a collection stands.  Nothing here depends on what a destination answers: the
batches follow from the orders alone.
-/

set_option autoImplicit false

namespace CodeGraph

/-- What a writer is told to do. -/
inductive Order where
  | push (collection : String) (document : Json.Value)
  /-- Give up a document for a collection that has no JSON form, for a reason. -/
  | giveUp (collection reason : String)
  | flush
  | note (event : Event)

/-- What leaves the buffers. -/
inductive Outgoing where
  | send (batch : Batch)
  | givenUp (collection reason : String)
  | note (event : Event)

structure Buffer where
  collection : String
  documents : Array Json.Value := #[]

namespace Buffer

def emptied (buffer : Buffer) : Buffer :=
  { buffer with documents := #[] }

def batch? (buffer : Buffer) : Option Batch :=
  if buffer.documents.isEmpty then none else some ⟨buffer.collection, buffer.documents.toList⟩

/-- Adds a document.  If the buffer reaches the limit by it, the documents leave as a batch. -/
def add (limit : Nat) (document : Json.Value) (buffer : Buffer) : Option Batch × Buffer :=
  let filled : Buffer := { buffer with documents := buffer.documents.push document }
  if limit ≤ filled.documents.size then (filled.batch?, filled.emptied) else (none, filled)

end Buffer

/-- The buffers of a writer, the place of each collection among them, and the number of documents at
which one is sent. -/
structure Buffers where
  limit : Nat
  limit_pos : 0 < limit
  waiting : List Buffer := []
  index : KeyMap Nat := .empty

namespace Buffers

/-- Empty buffers for a batch size.  Zero counts as one. -/
def ofSize (batchSize : Nat) : Buffers where
  limit := max batchSize 1
  limit_pos := by omega

/-- The place of the buffer of a collection.  A collection that the index does not know gets a new
buffer behind the others. -/
def placeFor (buffers : Buffers) (collection : String) : Nat × Buffers :=
  match buffers.index.get? collection with
  | some place => (place, buffers)
  | none =>
      let place := buffers.waiting.length
      (place, { buffers with
        waiting := buffers.waiting ++ [{ collection }]
        index := buffers.index.insert collection place })

def addAt (buffers : Buffers) (place : Nat) (document : Json.Value) : Option Batch × Buffers :=
  match buffers.waiting[place]? with
  | some buffer =>
      let (batch, buffer) := buffer.add buffers.limit document
      (batch, { buffers with waiting := buffers.waiting.set place buffer })
  -- no place of the index is without a buffer
  | none => (none, buffers)

def push (buffers : Buffers) (collection : String) (document : Json.Value) :
    Option Batch × Buffers :=
  let (place, buffers) := buffers.placeFor collection
  buffers.addAt place document

def follow (buffers : Buffers) : Order → List Outgoing × Buffers
  | .push collection document =>
      let (batch, buffers) := buffers.push collection document
      (batch.toList.map .send, buffers)
  | .flush =>
      ((buffers.waiting.filterMap Buffer.batch?).map .send,
        { buffers with waiting := buffers.waiting.map Buffer.emptied })
  | .giveUp collection reason => ([.givenUp collection reason], buffers)
  | .note event => ([.note event], buffers)

def followAll (buffers : Buffers) : List Order → List Outgoing × Buffers
  | [] => ([], buffers)
  | first :: later =>
      let (outgoing, buffers) := buffers.follow first
      let (others, buffers) := buffers.followAll later
      (outgoing ++ others, buffers)

def size (buffers : Buffers) : Nat :=
  sumOf (buffers.waiting.map fun buffer => buffer.documents.size)

end Buffers

def Outgoing.batch? : Outgoing → Option Batch
  | send batch => some batch
  | _ => none

end CodeGraph
