import CodeGraph.Batching
import CodeGraph.KeyMap

/-!
# Writing to a destination

A writer sends the batches of its buffers to a destination and keeps account of every document.
What a destination refuses is counted and reported, and the writer goes on.
-/

set_option autoImplicit false

namespace CodeGraph

structure WriteReport where
  delivered : KeyMap Nat := .empty
  batches : Nat := 0
  /-- The number of batches of which no document was taken. -/
  failedBatches : Nat := 0
  /-- The number of documents that were given up or not taken. -/
  failedDocuments : Nat := 0

namespace WriteReport

def totalDelivered (report : WriteReport) : Nat :=
  report.delivered.total

def deliveredTo (report : WriteReport) (collection : String) : Nat :=
  (report.delivered.get? collection).getD 0

def isClean (report : WriteReport) : Bool :=
  report.failedBatches == 0 && report.failedDocuments == 0

def failures (report : WriteReport) : Nat :=
  report.failedBatches + report.failedDocuments

/-- The account after a batch of which a destination states to have taken so many documents.  More
than there are cannot count. -/
def taken (report : WriteReport) (batch : Batch) (stated : Nat) : WriteReport :=
  let accepted := min stated batch.size
  { report with
    delivered := report.delivered.add batch.collection accepted
    batches := report.batches + 1
    failedDocuments := report.failedDocuments + (batch.size - accepted) }

def refused (report : WriteReport) (batch : Batch) : WriteReport :=
  { report with
    batches := report.batches + 1
    failedBatches := report.failedBatches + 1
    failedDocuments := report.failedDocuments + batch.size }

def givenUp (report : WriteReport) : WriteReport :=
  { report with failedDocuments := report.failedDocuments + 1 }

def answered (report : WriteReport) (batch : Batch) : Except DeliveryError Nat → WriteReport
  | .ok stated => report.taken batch stated
  | .error _ => report.refused batch

end WriteReport

def Batch.answeredEvent (batch : Batch) (destination : String) :
    Except DeliveryError Nat → Event
  | .ok stated =>
      ⟨.debug, "Flushed " ++ toString stated ++ "/" ++ toString batch.size ++ " documents to "
        ++ destination ++ "/" ++ batch.collection⟩
  | .error error =>
      ⟨.warn, "Failed to import batch of " ++ toString batch.size ++ " documents into "
        ++ destination ++ "/" ++ batch.collection ++ ": " ++ error.message⟩

def givenUpEvent (collection reason : String) : Event :=
  ⟨.warn, "Dropping unserializable document for " ++ collection ++ ": " ++ reason⟩

/-- How far a writer has come: the state of the destination, the account, and the events reported.
-/
structure Progress (σ : Type) where
  state : σ
  report : WriteReport := {}
  journal : Array Event := #[]

namespace Progress

variable {σ : Type}

def handle (destination : Destination σ) (progress : Progress σ) : Outgoing → Progress σ
  | .send batch =>
      let reply := destination.upsert batch progress.state
      { state := reply.state
        report := progress.report.answered batch reply.answer
        journal := (progress.journal ++ reply.events).push
          (batch.answeredEvent destination.name reply.answer) }
  | .givenUp collection reason =>
      { progress with
        report := progress.report.givenUp
        journal := progress.journal.push (givenUpEvent collection reason) }
  | .note event => { progress with journal := progress.journal.push event }

def handleAll (destination : Destination σ) (progress : Progress σ) (outgoing : List Outgoing) :
    Progress σ :=
  outgoing.foldl (handle destination) progress

end Progress

structure Writer (σ : Type) where
  destination : Destination σ
  buffers : Buffers
  progress : Progress σ

namespace Writer

variable {σ : Type}

def start (destination : Destination σ) (state : σ) (batchSize : Nat) : Writer σ where
  destination := destination
  buffers := .ofSize batchSize
  progress := { state }

def follow (writer : Writer σ) (order : Order) : Writer σ :=
  let (outgoing, buffers) := writer.buffers.follow order
  { writer with
    buffers
    progress := writer.progress.handleAll writer.destination outgoing }

def followAll (writer : Writer σ) (orders : List Order) : Writer σ :=
  orders.foldl follow writer

def finish (writer : Writer σ) : Progress σ :=
  (writer.follow .flush).progress

end Writer

end CodeGraph
