import CodeGraph.Proofs.Upserts

/-!
# What clearing leaves

The answers of a store depend on what its collections hold and on nothing else, so no calls tell
stores with the same content apart: `Store.Alike.answers`.  To clear a store removes every
collection but the one that a store always has.  `clear_empties_all_but_lasting` says what is left,
and when a cleared store is like one without documents.
-/

set_option autoImplicit false

namespace CodeGraph

inductive StoreCall where
  | upsert (batch : Batch)
  | count (collection : String)
  | get (collection key : String)
  | keys (collection : String)
  | clear

inductive StoreAnswer where
  | taken (answer : Except DeliveryError Nat)
  | counted (count : Nat)
  | found (document? : Except DeliveryError (Option Json.Value))
  | listed (keys : List String)
  | cleared

namespace Store

def respond (store : Store) : StoreCall → StoreAnswer × Store
  | .upsert batch =>
      let reply := destination.upsert batch store
      (.taken reply.answer, reply.state)
  | .count collection => (.counted (store.count collection), store)
  | .get collection key => (.found (store.get? collection key), store)
  | .keys collection => (.listed (store.keys collection), store)
  | .clear => (.cleared, store.clear)

def answers (store : Store) : List StoreCall → List StoreAnswer
  | [] => []
  | first :: later => (store.respond first).1 :: (store.respond first).2.answers later

/-- The collections of the stores hold the same.  A collection without documents need not be there.
-/
def Alike (first second : Store) : Prop :=
  ∀ name, first.collection name = second.collection name

theorem collection_clear (store : Store) (name : String) :
    store.clear.collection name =
      if name = lastingCollection then store.collection name else .empty := by
  rw [collection, clear, KeyMap.get?_filterKeys]
  by_cases lasts : name = lastingCollection <;> simp [lasts, collection]

/-! ## Stores that no calls tell apart -/

namespace Alike

variable {first second : Store}

theorem clear (alike : first.Alike second) : first.clear.Alike second.clear := by
  intro name
  rw [collection_clear, collection_clear, alike name]

theorem upsert (alike : first.Alike second) (batch : Batch) :
    (destination.upsert batch first).answer = (destination.upsert batch second).answer ∧
      (destination.upsert batch first).state.Alike (destination.upsert batch second).state := by
  change (answer batch first).answer = (answer batch second).answer ∧
    (answer batch first).state.Alike (answer batch second).state
  cases keyed : batch.isKeyed with
  | true =>
      rw [answer_of_keyed (Batch.isKeyed_iff.mp keyed),
        answer_of_keyed (Batch.isKeyed_iff.mp keyed)]
      refine ⟨rfl, fun name => ?_⟩
      rw [collection_file, collection_file, alike name, alike batch.collection]
  | false =>
      rw [answer_of_keyless keyed, answer_of_keyless keyed]
      exact ⟨rfl, alike⟩

theorem respond (alike : first.Alike second) (call : StoreCall) :
    (first.respond call).1 = (second.respond call).1 ∧
      (first.respond call).2.Alike (second.respond call).2 := by
  cases call with
  | upsert batch =>
      obtain ⟨sameAnswer, stillAlike⟩ := alike.upsert batch
      exact ⟨congrArg StoreAnswer.taken sameAnswer, stillAlike⟩
  | count name => exact ⟨by simp only [Store.respond, count, alike name], alike⟩
  | get name key => exact ⟨by simp only [Store.respond, get?, alike name], alike⟩
  | keys name => exact ⟨by simp only [Store.respond, keys, alike name], alike⟩
  | clear => exact ⟨rfl, alike.clear⟩

theorem answers (alike : first.Alike second) (calls : List StoreCall) :
    first.answers calls = second.answers calls := by
  induction calls generalizing first second with
  | nil => rfl
  | cons call later inductionHypothesis =>
      obtain ⟨sameAnswer, stillAlike⟩ := alike.respond call
      rw [Store.answers, Store.answers, sameAnswer, inductionHypothesis stillAlike]

end Alike

/-! ## After upserts -/

theorem collection_upsertAll (batches : List Batch) (name : String) :
    (empty.upsertAll batches).collection name =
      .ofList ((sentTo name (batches.filter Batch.isKeyed)).map filed) := by
  rw [upsertAll_eq, collection_fileAll]
  rfl

/-- A collection is empty if no batch with documents was taken into it. -/
theorem collection_upsertAll_eq_empty_iff {batches : List Batch} {name : String} :
    (empty.upsertAll batches).collection name = .empty ↔
      ∀ batch ∈ batches, batch.collection = name → batch.isKeyed → batch.documents = [] := by
  rw [collection_upsertAll]
  constructor
  · intro isEmpty batch member inCollection keyed
    refine List.eq_nil_iff_forall_not_mem.mpr fun document inBatch => ?_
    have isSent : document ∈ sentTo name (batches.filter Batch.isKeyed) :=
      mem_sentTo.mpr ⟨batch, List.mem_filter.mpr ⟨member, keyed⟩, inCollection, inBatch⟩
    have hasKey : (filed document).1 ∈
        (KeyMap.ofList ((sentTo name (batches.filter Batch.isKeyed)).map filed)).keys :=
      KeyMap.mem_keys_ofList.mpr (List.mem_map_of_mem (List.mem_map_of_mem isSent))
    rw [isEmpty] at hasKey
    cases hasKey
  · intro allEmpty
    have nothing : sentTo name (batches.filter Batch.isKeyed) = [] := by
      refine List.eq_nil_iff_forall_not_mem.mpr fun document isSent => ?_
      obtain ⟨batch, taken, inCollection, inBatch⟩ := mem_sentTo.mp isSent
      obtain ⟨member, keyed⟩ := List.mem_filter.mp taken
      rw [allEmpty batch member inCollection keyed] at inBatch
      cases inBatch
    rw [nothing]
    rfl

/-- What stays is what batches for the lasting collection put there. -/
theorem clear_upsertAll_alike (batches : List Batch) :
    (empty.upsertAll batches).clear.Alike
      (empty.upsertAll (batches.filter fun batch => batch.collection = lastingCollection)) := by
  intro name
  rw [collection_clear, collection_upsertAll, collection_upsertAll]
  by_cases lasts : name = lastingCollection
  · subst lasts
    have own : ∀ given : List Batch, chunksTo lastingCollection
        (given.filter fun batch => batch.collection = lastingCollection) =
          chunksTo lastingCollection given := by
      intro given
      rw [chunksTo, chunksTo, List.filter_filter]
      simp only [Bool.and_self]
    rw [if_pos rfl, List.filter_comm, sentTo, sentTo, own]
  · have nothing : sentTo name ((batches.filter fun batch =>
        batch.collection = lastingCollection).filter Batch.isKeyed) = [] := by
      refine List.eq_nil_iff_forall_not_mem.mpr fun document isSent => ?_
      obtain ⟨batch, taken, inCollection, _⟩ := mem_sentTo.mp isSent
      have inLasting := (List.mem_filter.mp (List.mem_filter.mp taken).1).2
      exact lasts (inCollection.symm.trans (of_decide_eq_true inLasting))
    rw [if_neg lasts, nothing]
    rfl

end Store

/-- To clear a store does not remove every collection: a document in the one that a store always has
stays, and a search run may be told to write there. -/
theorem clear_keeps_lasting_document :
    ¬ ∀ batches : List Batch,
      let store := (Store.empty.upsertAll batches).clear
      (∀ name, store.count name = 0 ∧ store.keys name = [] ∧
        ∀ key, store.get? name key = .ok none) ∧
      ∀ calls, store.answers calls = Store.empty.answers calls := by
  intro clearsAll
  have emptied := (clearsAll [⟨Store.lastingCollection, [.object [("_key", .text "a")]]⟩]).1
  exact absurd (emptied Store.lastingCollection).1 (by decide +kernel)

/-- After any upserts, of which some may fail, clearing empties every collection but the one that a
store always has.  No later calls tell the store from a fresh one that was only sent the batches for
that collection.  So it is like a fresh store just when no document was taken into that collection.
-/
theorem clear_empties_all_but_lasting (batches : List Batch) :
    let cleared := (Store.empty.upsertAll batches).clear
    let lasting := batches.filter fun batch => batch.collection = Store.lastingCollection
    (∀ name, name ≠ Store.lastingCollection →
      cleared.count name = 0 ∧ cleared.keys name = [] ∧
        ∀ key, cleared.get? name key = .ok none) ∧
    (∀ calls, cleared.answers calls = (Store.empty.upsertAll lasting).answers calls) ∧
    ((∀ calls, cleared.answers calls = Store.empty.answers calls) ↔
      ∀ batch ∈ lasting, batch.isKeyed → batch.documents = []) := by
  intro cleared lasting
  have alike : cleared.Alike (Store.empty.upsertAll lasting) :=
    Store.clear_upsertAll_alike batches
  have onlyLasting : ∀ batch ∈ lasting, batch.collection = Store.lastingCollection :=
    fun batch member => of_decide_eq_true (List.mem_filter.mp member).2
  refine ⟨?_, alike.answers, ?_⟩
  · intro name removed
    have isEmpty : cleared.collection name = .empty := by
      rw [Store.collection_clear, if_neg removed]
    refine ⟨by rw [Store.count, isEmpty]; rfl, by rw [Store.keys, isEmpty]; rfl, fun key => ?_⟩
    rw [Store.get?, isEmpty]
    rfl
  · constructor
    · intro likeFresh batch member keyed
      -- the number of documents is enough to tell the stores apart
      have counted := List.cons.inj (likeFresh [.count Store.lastingCollection])
      have isEmpty := Store.collection_of_count (StoreAnswer.counted.inj counted.1)
      rw [alike, Store.collection_upsertAll_eq_empty_iff] at isEmpty
      exact isEmpty batch member (onlyLasting batch member) keyed
    · intro noneTaken
      refine Store.Alike.answers fun name => ?_
      rw [alike, Store.collection_upsertAll_eq_empty_iff.mpr fun batch member _ =>
        noneTaken batch member]
      rfl

end CodeGraph
