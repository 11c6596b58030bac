import CodeGraph.Proofs.Delivery
import CodeGraph.Store

/-!
# What a store holds

A batch whose documents all have keys puts them into its collection, one after the other.  So what a
store holds after a run follows from the documents that were queued for each collection, whatever
the batches were: `Writer.state_finish_store`.  To file the same documents again changes nothing.
-/

set_option autoImplicit false

namespace CodeGraph

def Batch.Keyed (batch : Batch) : Prop :=
  ∀ document ∈ batch.documents, (documentKey? document).isSome

def filed (document : Json.Value) : String × String :=
  ((documentKey? document).getD "", .ofList document.compact)

def aloneBatch (push : String × Json.Value) : Batch :=
  ⟨push.1, [push.2]⟩

namespace Store

def fileAll (store : Store) (batches : List Batch) : Store :=
  batches.foldl (fun store batch => store.file batch.collection (batch.documents.map filed)) store

/-! ## One batch -/

theorem filed?_of_keyed {documents : List Json.Value}
    (keyed : ∀ document ∈ documents, (documentKey? document).isSome) :
    filed? documents = some (documents.map filed) := by
  induction documents with
  | nil => rfl
  | cons first later inductionHypothesis =>
      obtain ⟨key, hasKey⟩ := Option.isSome_iff_exists.mp (keyed first List.mem_cons_self)
      have others := inductionHypothesis fun document member =>
        keyed document (List.mem_cons_of_mem first member)
      rw [filed?] at others ⊢
      rw [List.mapM_cons, others, List.map_cons, filed, hasKey]
      rfl

theorem answer_eq (batch : Batch) (store : Store) :
    answer batch store =
      match filed? batch.documents with
      | none => { answer := .error (.missingKey batch.collection), state := store }
      | some entries =>
          { answer := .ok batch.size, state := store.file batch.collection entries } := by
  cases entries : filed? batch.documents <;>
    simp only [answer, Database.upsert, Database.after, database, perform, entries]

theorem answer_of_keyed {batch : Batch} (keyed : batch.Keyed) (store : Store) :
    answer batch store =
      { answer := .ok batch.size
        state := store.file batch.collection (batch.documents.map filed) } := by
  rw [answer_eq, filed?_of_keyed keyed]

theorem get?_file (store : Store) (name other : String) (entries : List (String × String)) :
    (store.file name entries).collections.get? other =
      if other = name then some ((store.collection name).putAll entries)
      else store.collections.get? other := by
  rw [file, KeyMap.get?_insert, KeyMap.union_ofList]

theorem collection_file (store : Store) (name other : String) (entries : List (String × String)) :
    (store.file name entries).collection other =
      if other = name then (store.collection name).putAll entries else store.collection other := by
  rw [collection, get?_file]
  split <;> rfl

/-! ## Many batches -/

theorem collection_of_count {store : Store} {name : String} (isEmpty : store.count name = 0) :
    store.collection name = .empty := by
  apply KeyMap.ext_get?
  intro key
  have none : (store.collection name).entries = [] := List.eq_nil_of_length_eq_zero isEmpty
  rw [KeyMap.get?, none]
  rfl

/-- The documents that were sent to a collection are put into it, in order. -/
theorem collection_fileAll (store : Store) (batches : List Batch) (name : String) :
    (store.fileAll batches).collection name =
      (store.collection name).putAll ((sentTo name batches).map filed) := by
  induction batches generalizing store with
  | nil => rfl
  | cons first later inductionHypothesis =>
      have step : store.fileAll (first :: later) =
          (store.file first.collection (first.documents.map filed)).fileAll later := rfl
      rw [step, inductionHypothesis, collection_file, sentTo_cons, List.map_append,
        KeyMap.putAll_append]
      by_cases same : first.collection = name
      · rw [if_pos same.symm, if_pos same, same]
      · rw [if_neg (Ne.symm same), if_neg same]
        rfl

theorem get?_fileAll (store : Store) (batches : List Batch) (name : String) :
    (store.fileAll batches).collections.get? name =
      if name ∈ batches.map Batch.collection then some ((store.fileAll batches).collection name)
      else store.collections.get? name := by
  induction batches generalizing store with
  | nil => rfl
  | cons first later inductionHypothesis =>
      have step : store.fileAll (first :: later) =
          (store.file first.collection (first.documents.map filed)).fileAll later := rfl
      rw [step, inductionHypothesis, get?_file]
      by_cases inLater : name ∈ later.map Batch.collection
      · have written : name ∈ (first :: later).map Batch.collection :=
          List.mem_cons_of_mem _ inLater
        rw [if_pos inLater, if_pos written]
      · rw [if_neg inLater]
        by_cases isFirst : name = first.collection
        · have written : name ∈ (first :: later).map Batch.collection := by simp [isFirst]
          have unchanged : sentTo name later = [] := by
            apply List.eq_nil_iff_forall_not_mem.mpr
            intro document isSent
            obtain ⟨batch, member, inCollection, _⟩ := mem_sentTo.mp isSent
            exact inLater (List.mem_map.mpr ⟨batch, member, inCollection⟩)
          -- nothing comes behind the first batch, so its documents are what the collection got
          rw [if_pos isFirst, if_pos written, collection_fileAll, unchanged, collection_file,
            if_pos isFirst]
          rfl
        · have notWritten : name ∉ (first :: later).map Batch.collection := by
            simpa [isFirst] using inLater
          rw [if_neg isFirst, if_neg notWritten]

theorem fileAll_append (store : Store) (first second : List Batch) :
    store.fileAll (first ++ second) = (store.fileAll first).fileAll second :=
  List.foldl_append

/-- What is in each collection, and which collections there are, is all there is to a store. -/
theorem fileAll_eq {store : Store} {first second : List Batch}
    (sameCollections : ∀ name, name ∈ first.map Batch.collection ↔
      name ∈ second.map Batch.collection)
    (sameContent : ∀ name, (store.fileAll first).collection name =
      (store.fileAll second).collection name) :
    store.fileAll first = store.fileAll second := by
  have same : (store.fileAll first).collections = (store.fileAll second).collections := by
    apply KeyMap.ext_get?
    intro name
    simp only [get?_fileAll, sameCollections, sameContent]
  exact congrArg Store.mk same

/-- To file batches a second time changes nothing. -/
theorem fileAll_fileAll (store : Store) (batches : List Batch) :
    (store.fileAll batches).fileAll batches = store.fileAll batches := by
  rw [← fileAll_append]
  apply fileAll_eq
  · simp
  · intro name
    rw [fileAll_append, collection_fileAll, collection_fileAll, KeyMap.putAll_putAll]

end Store

/-! ## A run -/

theorem sentTo_map_alone (pushed : List (String × Json.Value)) (collection : String) :
    sentTo collection (pushed.map aloneBatch) =
      (pushed.filter fun push => push.1 = collection).map Prod.snd := by
  induction pushed with
  | nil => rfl
  | cons first later inductionHypothesis =>
      rw [List.map_cons, sentTo_cons, inductionHypothesis]
      by_cases same : first.1 = collection <;> simp [aloneBatch, same]

theorem Progress.state_handleAll_store (progress : Progress Store) (outgoing : List Outgoing)
    (keyed : ∀ batch ∈ sent outgoing, batch.Keyed) :
    (progress.handleAll Store.destination outgoing).state =
      progress.state.fileAll (sent outgoing) := by
  induction outgoing generalizing progress with
  | nil => rfl
  | cons first later inductionHypothesis =>
      have step : progress.handleAll Store.destination (first :: later) =
          (progress.handle Store.destination first).handleAll Store.destination later := rfl
      cases first with
      | send batch =>
          have head : sent (.send batch :: later) = batch :: sent later := rfl
          rw [head] at keyed ⊢
          have filed : (progress.handle Store.destination (.send batch)).state =
              progress.state.file batch.collection (batch.documents.map filed) :=
            congrArg Reply.state (Store.answer_of_keyed (keyed batch List.mem_cons_self) _)
          rw [step, inductionHypothesis _ fun other member =>
            keyed other (List.mem_cons_of_mem batch member), filed]
          rfl
      | givenUp => exact inductionHypothesis _ keyed
      | note => exact inductionHypothesis _ keyed

/-- The batches of a run have keys if the documents queued have. -/
theorem Batch.keyed_of_pushes {orders : List Order} (batchSize : Nat)
    (keyed : ∀ push ∈ pushes orders, (documentKey? push.2).isSome) :
    ∀ batch ∈ sent ((Buffers.ofSize batchSize).followAll (orders ++ [.flush])).1,
      batch.Keyed := by
  intro batch member document inBatch
  have isSent : document ∈ sentTo batch.collection
      (sent ((Buffers.ofSize batchSize).followAll (orders ++ [.flush])).1) :=
    mem_sentTo.mpr ⟨batch, member, rfl, inBatch⟩
  rw [Buffers.sentTo_flushed, mem_pushedTo] at isSent
  exact keyed _ isSent

theorem mem_collections_sent {orders : List Order} {batchSize : Nat} {name : String} :
    name ∈ (sent ((Buffers.ofSize batchSize).followAll (orders ++ [.flush])).1).map
        Batch.collection ↔
      name ∈ (pushes orders).map Prod.fst := by
  have queued : name ∈ (pushes orders).map Prod.fst ↔
      ∃ document, document ∈ pushedTo name orders := by
    simp [mem_pushedTo]
  rw [queued, ← Buffers.sentTo_flushed batchSize orders name]
  simp only [mem_sentTo, List.mem_map]
  constructor
  · rintro ⟨batch, member, inCollection⟩
    have positive :=
      (Buffers.size_sent_followAll (Buffers.sound_ofSize batchSize) member).1
    obtain ⟨document, inBatch⟩ := List.exists_mem_of_length_pos positive
    exact ⟨document, batch, member, inCollection, inBatch⟩
  · rintro ⟨document, batch, member, inCollection, _⟩
    exact ⟨batch, member, inCollection⟩

/-- A run leaves a store as if every document was filed alone, whatever the batch size. -/
theorem Writer.state_finish_store {orders : List Order}
    (keyed : ∀ push ∈ pushes orders, (documentKey? push.2).isSome) (store : Store)
    (batchSize : Nat) :
    ((Writer.start Store.destination store batchSize).followAll orders).finish.state =
      store.fileAll ((pushes orders).map aloneBatch) := by
  have batches := Batch.keyed_of_pushes batchSize keyed
  rw [Writer.finish_followAll, Writer.followAll_eq]
  refine (Progress.state_handleAll_store _ _ batches).trans (Store.fileAll_eq ?_ ?_)
  · intro name
    rw [mem_collections_sent]
    simp [aloneBatch]
  · intro name
    rw [Store.collection_fileAll, Store.collection_fileAll, Buffers.sentTo_flushed,
      sentTo_map_alone]
    rfl

/-- A run puts into each collection what was queued for it. -/
theorem Writer.collection_finish_store {orders : List Order}
    (keyed : ∀ push ∈ pushes orders, (documentKey? push.2).isSome) (store : Store)
    (batchSize : Nat) (collection : String) :
    (((Writer.start Store.destination store batchSize).followAll orders).finish.state).collection
        collection =
      (store.collection collection).putAll ((pushedTo collection orders).map filed) := by
  rw [Writer.state_finish_store keyed, Store.collection_fileAll, sentTo_map_alone, pushedTo]

end CodeGraph
