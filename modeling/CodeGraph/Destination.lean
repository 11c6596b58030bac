import CodeGraph.Http.Fault
import CodeGraph.Json.Value
import CodeGraph.Journal
import CodeGraph.StoreFault

/-!
# Destinations

A destination takes batches of documents, one collection at a time.  Documents have keys, and one
with the key of an earlier one takes its place.
-/

set_option autoImplicit false

namespace CodeGraph

structure Batch where
  collection : String
  documents : List Json.Value

def Batch.size (batch : Batch) : Nat :=
  batch.documents.length

inductive DeliveryError where
  | http (fault : Http.Fault)
  | rejected (destination reason : String)
  | storage (fault : StoreFault)
  | undecodable (fault : Json.Fault)
  | missingKey (collection : String)

def DeliveryError.message : DeliveryError → String
  | http fault => "HTTP error: " ++ fault.message
  | rejected destination reason => destination ++ " rejected request: " ++ reason
  | storage fault => "Database error: " ++ fault.message
  | undecodable fault => "Serialization error: " ++ fault.message
  | missingKey collection => "document in `" ++ collection ++ "` has no key field"

/-- What comes of a request to something with a state of type `σ`: the answer, the state afterwards,
and the events reported on the way. -/
structure Reply (σ α : Type) where
  answer : Except DeliveryError α
  state : σ
  events : List Event := []

/-- Two requests one after the other.  The second one is left out if the first one fails. -/
def Reply.andThen {σ α β : Type} (first : Reply σ α) (second : α → σ → Reply σ β) : Reply σ β :=
  match first.answer with
  | .error error => { answer := .error error, state := first.state, events := first.events }
  | .ok value =>
      let rest := second value first.state
      { rest with events := first.events ++ rest.events }

/-- A place that documents go to, with a state of type `σ`.  It answers a batch with the number of
documents it took. -/
structure Destination (σ : Type) where
  name : String
  upsert : Batch → σ → Reply σ Nat

/-- The destination that also keeps the batches it was sent, the latest first. -/
def Destination.traced {σ : Type} (destination : Destination σ) :
    Destination (List Batch × σ) where
  name := destination.name
  upsert := fun batch state =>
    let reply := destination.upsert batch state.2
    { reply with state := (batch :: state.1, reply.state) }

end CodeGraph
