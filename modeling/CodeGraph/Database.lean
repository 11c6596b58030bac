import CodeGraph.Destination
import CodeGraph.Json.Parse
import CodeGraph.Json.Print
import CodeGraph.KeyMap

/-!
# Writing to a database of trees

A collection is a tree of an embedded database, in which the JSON texts of its documents stand under
their keys.  The database itself is a parameter: its operations, of which those that go to the disk
can fail.  What is trusted of it is stated as `Database.Lawful`.
-/

set_option autoImplicit false

namespace CodeGraph

/-- The fields that hold the key of a document, the first one that is a text: records of the graph
have `_key`, those of the search collection `id`. -/
def keyFields : List String := ["_key", "id"]

def documentKey? (document : Json.Value) : Option String :=
  keyFields.findSome? fun field => (document.member? field).bind Json.Value.text?

def filed? (documents : List Json.Value) : Option (List (String × String)) :=
  documents.mapM fun document => do
    let key ← documentKey? document
    return (key, .ofList document.compact)

/-- A step in which a database may change or go to the disk. -/
inductive DatabaseStep where
  | openTree (name : String)
  /-- Insert entries into a tree, all of them or none. -/
  | applyBatch (name : String) (entries : List (String × String))
  | dropTree (name : String)
  | flush

/-- A database with a state of type `δ`. -/
structure Database (δ : Type) where
  perform : DatabaseStep → δ → Except StoreFault Unit × δ
  treeNames : δ → List String
  size : String → δ → Nat
  find : String → String → δ → Except StoreFault (Option String)
  entries : String → δ → Except StoreFault (List (String × String))

namespace Database

def lastingTree : String := "__sled__default"

variable {δ α : Type} (database : Database δ)

def after (step : DatabaseStep) (state : δ) (next : δ → Reply δ α) : Reply δ α :=
  match database.perform step state with
  | (.ok (), state) => next state
  | (.error fault, state) => { answer := .error (.storage fault), state }

def upsert (batch : Batch) (state : δ) : Reply δ Nat :=
  database.after (.openTree batch.collection) state fun state =>
    match filed? batch.documents with
    | none => { answer := .error (.missingKey batch.collection), state }
    | some entries =>
        database.after (.applyBatch batch.collection entries) state fun state =>
          database.after .flush state fun state => { answer := .ok batch.size, state }

def destination : Destination δ where
  name := "store"
  upsert := database.upsert

def count (name : String) (state : δ) : Reply δ Nat :=
  database.after (.openTree name) state fun state =>
    { answer := .ok (database.size name state), state }

def get (name key : String) (state : δ) : Reply δ (Option Json.Value) :=
  database.after (.openTree name) state fun state =>
    let answer := match database.find name key state with
      | .error fault => .error (.storage fault)
      | .ok none => .ok none
      | .ok (some text) => ((Json.parse text.toList).map some).mapError .undecodable
    { answer, state }

def keys (name : String) (state : δ) : Reply δ (List String) :=
  database.after (.openTree name) state fun state =>
    { answer := ((database.entries name state).map (·.map Prod.fst)).mapError .storage, state }

/-- Drops trees one after the other, except for the one that cannot be dropped, and then what comes
after it. -/
def dropAll (next : δ → Reply δ α) : List String → δ → Reply δ α
  | [], state => next state
  | name :: later, state =>
      if name = lastingTree then dropAll next later state
      else database.after (.dropTree name) state (dropAll next later)

def clear (state : δ) : Reply δ Unit :=
  database.dropAll (fun state => database.after .flush state fun state =>
    { answer := .ok (), state }) (database.treeNames state) state

/-- What is trusted of a database whose trees hold these texts by key.  A step that fails leaves the
trees as they were.  One that succeeds does what it says, and of two texts for one key in a batch
the later one stays.  What is read is what the trees hold, the entries in the order of their
keys. -/
structure Lawful (holds : String → δ → KeyMap String) : Prop where
  failed : ∀ {step state fault after}, database.perform step state = (.error fault, after) →
    ∀ name, holds name after = holds name state
  opened : ∀ {name state after}, database.perform (.openTree name) state = (.ok (), after) →
    ∀ other, holds other after = holds other state
  applied : ∀ {name entries state after},
    database.perform (.applyBatch name entries) state = (.ok (), after) →
      (∀ key, (holds name after).get? key =
        (entries.reverse.lookup key).or ((holds name state).get? key)) ∧
      ∀ other, other ≠ name → holds other after = holds other state
  dropped : ∀ {name state after}, database.perform (.dropTree name) state = (.ok (), after) →
    holds name after = .empty ∧ ∀ other, other ≠ name → holds other after = holds other state
  flushed : ∀ {state after}, database.perform .flush state = (.ok (), after) →
    ∀ name, holds name after = holds name state
  named : ∀ {name state}, name ∉ database.treeNames state → holds name state = .empty
  size : ∀ name state, database.size name state = (holds name state).size
  find : ∀ {name key state found}, database.find name key state = .ok found →
    found = (holds name state).get? key
  entries : ∀ {name state found}, database.entries name state = .ok found →
    found = (holds name state).entries

end Database

end CodeGraph
