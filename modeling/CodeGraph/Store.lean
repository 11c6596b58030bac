import CodeGraph.Database

/-!
# The local store

The store holds documents by collection and key, each as its JSON text.  It is the database whose
steps always succeed: a document takes the place of an earlier one with its key.
-/

set_option autoImplicit false

namespace CodeGraph

structure Store where
  collections : KeyMap (KeyMap String)

namespace Store

def empty : Store := ⟨.empty⟩

/-- The texts of a collection by key; a collection that was never written is empty. -/
def collection (store : Store) (name : String) : KeyMap String :=
  (store.collections.get? name).getD .empty

def count (store : Store) (name : String) : Nat :=
  (store.collection name).size

def keys (store : Store) (name : String) : List String :=
  (store.collection name).keys

def get? (store : Store) (name key : String) : Except DeliveryError (Option Json.Value) :=
  match (store.collection name).get? key with
  | none => .ok none
  | some text =>
      match Json.parse text.toList with
      | .ok document => .ok (some document)
      | .error fault => .error (.undecodable fault)

def file (store : Store) (name : String) (entries : List (String × String)) : Store :=
  ⟨store.collections.insert name ((store.collection name).union (.ofList entries))⟩

def drop (store : Store) (name : String) : Store :=
  ⟨store.collections.filterKeys fun other => other ≠ name⟩

/-- A collection without documents is as good as none, so that nothing comes of making one. -/
def perform (store : Store) : DatabaseStep → Store
  | .openTree _ => store
  | .applyBatch name entries => store.file name entries
  | .dropTree name => store.drop name
  | .flush => store

def database : Database Store where
  perform := fun step store => (.ok (), store.perform step)
  treeNames := fun store => store.collections.keys
  size := fun name store => store.count name
  find := fun name key store => .ok ((store.collection name).get? key)
  entries := fun name store => .ok (store.collection name).entries

/-- Files a batch.  One with a document that has no key changes nothing. -/
def answer (batch : Batch) (store : Store) : Reply Store Nat :=
  database.upsert batch store

def destination : Destination Store :=
  database.destination

def lastingCollection : String := Database.lastingTree

/-- Removes every collection but the one that a store always has, which stays as it is. -/
def clear (store : Store) : Store :=
  ⟨store.collections.filterKeys fun name => name = lastingCollection⟩

def toValue (store : Store) : Json.Value :=
  .object (store.collections.entries.map fun entry =>
    (entry.1, .object (entry.2.entries.map fun filed => (filed.1, .text filed.2))))

def collectionOfValue? : Json.Value → Option (KeyMap String)
  | .object members => do
      let entries ← members.mapM fun member => do
        let text ← member.2.text?
        return (member.1, text)
      return .ofList entries
  | _ => none

def ofValue? : Json.Value → Option Store
  | .object members => do
      let entries ← members.mapM fun member => do
        let texts ← collectionOfValue? member.2
        return (member.1, texts)
      return ⟨.ofList entries⟩
  | _ => none

end Store

end CodeGraph
