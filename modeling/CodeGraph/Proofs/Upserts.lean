import CodeGraph.Proofs.LastWrite
import Mathlib.Data.List.Induction

/-!
# A store is a map with atomic upserts

Seen from outside a store is a map from collections and keys to documents.  A batch with a document
that has no key is refused as a whole; any other puts its documents in, one after the other.
`store_refines_keyed_map` compares the two, for every sequence of batches.
-/

set_option autoImplicit false

namespace CodeGraph

/-- The key to put a document under: its text in the key field of the graph or, if there is none,
in that of the search collection. -/
def Json.Value.shelfKey? (document : Json.Value) : Option String :=
  (document.textAt? "_key").or (document.textAt? "id")

def Batch.isKeyed (batch : Batch) : Bool :=
  batch.documents.all fun document => document.shelfKey?.isSome

abbrev Shelves := String → String → Option Json.Value

namespace Shelves

def empty : Shelves := fun _ _ => none

def put (collection : String) (shelves : Shelves) (document : Json.Value) : Shelves :=
  fun name key =>
    if name = collection ∧ document.shelfKey? = some key then some document else shelves name key

def upsert (shelves : Shelves) (batch : Batch) : Shelves :=
  if batch.isKeyed then batch.documents.foldl (put batch.collection) shelves else shelves

def upsertAll (shelves : Shelves) (batches : List Batch) : Shelves :=
  batches.foldl upsert shelves

end Shelves

namespace Store

def upsertAll (store : Store) (batches : List Batch) : Store :=
  batches.foldl (fun store batch => (destination.upsert batch store).state) store

/-- The store gives the documents of the shelves and no others. -/
def Shows (store : Store) (shelves : Shelves) : Prop :=
  ∀ collection key, store.get? collection key = .ok (shelves collection key)

end Store

/-! ## One batch -/

theorem documentKey?_eq_shelfKey? (document : Json.Value) :
    documentKey? document = document.shelfKey? :=
  documentKey?_eq document

theorem Batch.isKeyed_iff {batch : Batch} : batch.isKeyed = true ↔ batch.Keyed := by
  simp only [isKeyed, Keyed, List.all_eq_true, documentKey?_eq_shelfKey?]

theorem Batch.isKeyed_eq_false_iff {batch : Batch} :
    batch.isKeyed = false ↔
      ∃ document ∈ batch.documents, document.textAt? "_key" = none ∧
        document.textAt? "id" = none := by
  simp [isKeyed, Json.Value.shelfKey?]

theorem Store.filed?_of_keyless {documents : List Json.Value}
    (keyless : ∃ document ∈ documents, documentKey? document = none) : filed? documents = none := by
  induction documents with
  | nil =>
      obtain ⟨_, member, _⟩ := keyless
      cases member
  | cons first later inductionHypothesis =>
      rw [filed?, List.mapM_cons]
      cases hasKey : documentKey? first with
      | none => rfl
      | some key =>
          have inLater : ∃ document ∈ later, documentKey? document = none := by
            obtain ⟨document, member, noKey⟩ := keyless
            rcases List.mem_cons.mp member with rfl | isLater
            · rw [hasKey] at noKey
              cases noKey
            · exact ⟨document, isLater, noKey⟩
          have none := inductionHypothesis inLater
          rw [filed?] at none
          rw [none]
          rfl

theorem Store.answer_of_keyless {batch : Batch} (keyless : batch.isKeyed = false) (store : Store) :
    answer batch store = { answer := .error (.missingKey batch.collection), state := store } := by
  have none : filed? batch.documents = none := by
    apply filed?_of_keyless
    obtain ⟨document, member, noKey⟩ := Batch.isKeyed_eq_false_iff.mp keyless
    refine ⟨document, member, ?_⟩
    rw [documentKey?_eq, noKey.1, noKey.2]
    rfl
  rw [answer_eq, none]

theorem Shelves.foldl_put (shelves : Shelves) (collection : String) (documents : List Json.Value)
    (name key : String) :
    documents.foldl (put collection) shelves name key =
      if name = collection then
        (lastWith? Json.Value.shelfKey? key documents).or (shelves name key)
      else shelves name key := by
  induction documents using List.reverseRecOn with
  | nil => simp [lastWith?]
  | append_singleton before document inductionHypothesis =>
      rw [List.foldl_append, List.foldl_cons, List.foldl_nil, put, inductionHypothesis,
        lastWith?_append, lastWith?_singleton]
      by_cases inCollection : name = collection <;>
        by_cases hasKey : document.shelfKey? = some key <;> simp [inCollection, hasKey]

/-! ## Many batches -/

/-- The batches that are refused leave no trace. -/
theorem Store.upsertAll_eq (store : Store) (batches : List Batch) :
    store.upsertAll batches = store.fileAll (batches.filter Batch.isKeyed) := by
  induction batches generalizing store with
  | nil => rfl
  | cons first later inductionHypothesis =>
      have step : store.upsertAll (first :: later) = (answer first store).state.upsertAll later :=
        rfl
      rw [step, inductionHypothesis]
      cases keyed : first.isKeyed with
      | true =>
          rw [answer_of_keyed (Batch.isKeyed_iff.mp keyed), List.filter_cons_of_pos keyed]
          rfl
      | false =>
          rw [answer_of_keyless keyed, List.filter_cons_of_neg (by simp [keyed])]

/-- What stands on the shelves is the last document that a batch put there. -/
theorem Shelves.upsertAll_eq (shelves : Shelves) (batches : List Batch) (name key : String) :
    shelves.upsertAll batches name key =
      (lastWith? Json.Value.shelfKey? key
        (sentTo name (batches.filter Batch.isKeyed))).or (shelves name key) := by
  induction batches generalizing shelves with
  | nil => rfl
  | cons first later inductionHypothesis =>
      have step : shelves.upsertAll (first :: later) = (shelves.upsert first).upsertAll later := rfl
      rw [step, inductionHypothesis, upsert]
      cases keyed : first.isKeyed with
      | true =>
          rw [if_pos rfl, List.filter_cons_of_pos keyed, sentTo_cons, lastWith?_append,
            foldl_put, Option.or_assoc]
          by_cases same : name = first.collection
          · rw [if_pos same, if_pos same.symm]
          · rw [if_neg same, if_neg (Ne.symm same)]
            rfl
      | false => rw [if_neg Bool.false_ne_true, List.filter_cons_of_neg (by simp [keyed])]

section Plain

variable {batches : List Batch}

theorem Store.isImage_upsertAll
    (plain : ∀ given ∈ batches, ∀ document ∈ given.documents, document.Plain Json.maxDepth)
    (collection : String) :
    (Store.empty.upsertAll batches).IsImage collection Json.Value.shelfKey?
      (sentTo collection (batches.filter Batch.isKeyed)) := by
  have given : ∀ document ∈ sentTo collection (batches.filter Batch.isKeyed),
      ∃ batch ∈ batches, batch.Keyed ∧ document ∈ batch.documents := by
    intro document isSent
    obtain ⟨batch, accepted, _, inBatch⟩ := mem_sentTo.mp isSent
    obtain ⟨member, keyed⟩ := List.mem_filter.mp accepted
    exact ⟨batch, member, Batch.isKeyed_iff.mp keyed, inBatch⟩
  refine isImage_of_collection ?_ (fun document _ => documentKey?_eq_shelfKey? document) ?_ ?_
  · rw [upsertAll_eq, collection_fileAll]
    rfl
  · intro document isSent
    obtain ⟨batch, _, keyed, inBatch⟩ := given document isSent
    exact keyed document inBatch
  · intro document isSent
    obtain ⟨batch, member, _, inBatch⟩ := given document isSent
    exact Json.parse_compact (plain batch member document inBatch)

theorem Store.shows_upsertAll
    (plain : ∀ given ∈ batches, ∀ document ∈ given.documents, document.Plain Json.maxDepth) :
    (Store.empty.upsertAll batches).Shows (Shelves.empty.upsertAll batches) := by
  intro collection key
  have noneBefore : Shelves.empty collection key = none := rfl
  rw [(isImage_upsertAll plain collection).last key, Shelves.upsertAll_eq, noneBefore,
    Option.or_none]

end Plain

/-- A store that was empty gives, after any batches, the documents that shelves with atomic upserts
hold, and one more batch does the same to both.  It is refused just when one of its documents has no
key, and then the store stays as it is; otherwise it counts as taken, and to give it again changes
nothing. -/
theorem store_refines_keyed_map (batches : List Batch) (batch : Batch)
    (plain : ∀ given ∈ batches ++ [batch], ∀ document ∈ given.documents,
      document.Plain Json.maxDepth) :
    let store := Store.empty.upsertAll batches
    let shelves := Shelves.empty.upsertAll batches
    let keyless := ∃ document ∈ batch.documents,
      document.textAt? "_key" = none ∧ document.textAt? "id" = none
    let reply := Store.destination.upsert batch store
    store.Shows shelves ∧
    (∀ collection,
      store.IsImage collection Json.Value.shelfKey?
        (sentTo collection (batches.filter Batch.isKeyed)) ∧
      store.count collection = (store.keys collection).length) ∧
    reply.state.Shows (shelves.upsert batch) ∧
    (reply.answer = .error (.missingKey batch.collection) ↔ keyless) ∧
    (keyless → reply.state = store) ∧
    (¬keyless → reply.answer = .ok batch.size ∧
      Store.destination.upsert batch reply.state = reply) := by
  intro store shelves keyless reply
  have plainBefore : ∀ given ∈ batches, ∀ document ∈ given.documents,
      document.Plain Json.maxDepth :=
    fun given member => plain given (List.mem_append_left _ member)
  -- one more batch is the last one of a longer run, of both
  have oneMore : reply.state = Store.empty.upsertAll (batches ++ [batch]) := by
    rw [Store.upsertAll, List.foldl_append]
    rfl
  have oneMoreShelf : shelves.upsert batch = Shelves.empty.upsertAll (batches ++ [batch]) := by
    rw [Shelves.upsertAll, List.foldl_append]
    rfl
  refine ⟨Store.shows_upsertAll plainBefore, fun collection =>
    ⟨Store.isImage_upsertAll plainBefore collection, store.count_eq collection⟩, ?_, ?_⟩
  · rw [oneMore, oneMoreShelf]
    exact Store.shows_upsertAll plain
  cases keyed : batch.isKeyed with
  | false =>
      have isKeyless : keyless := Batch.isKeyed_eq_false_iff.mp keyed
      have refused : reply = _ := Store.answer_of_keyless keyed store
      rw [refused]
      exact ⟨iff_of_true rfl isKeyless, fun _ => rfl, fun notKeyless => absurd isKeyless notKeyless⟩
  | true =>
      have notKeyless : ¬keyless := by
        intro isKeyless
        rw [Batch.isKeyed_eq_false_iff.mpr isKeyless] at keyed
        cases keyed
      have taken : ∀ before, Store.destination.upsert batch before =
          { answer := .ok batch.size, state := before.fileAll [batch] } :=
        Store.answer_of_keyed (Batch.isKeyed_iff.mp keyed)
      have isTaken : reply = _ := taken store
      rw [isTaken, taken, Store.fileAll_fileAll]
      refine ⟨iff_of_false ?_ notKeyless, fun isKeyless => absurd isKeyless notKeyless,
        fun _ => ⟨rfl, rfl⟩⟩
      intro isRefused
      cases isRefused

/-- A document, a batch that is refused although its first document has a key, and a document that
takes the place of the first because its key field of the graph is no text. -/
theorem store_refines_keyed_map_refused :
    let old := Json.Value.object [("_key", .text "k")]
    let new := Json.Value.object [("_key", .bool true), ("id", .text "k")]
    let keyless := Json.Value.object [("id", .null)]
    let store := Store.empty.upsertAll [⟨"a", [old]⟩, ⟨"a", [new, keyless]⟩]
    let reply := Store.destination.upsert ⟨"a", [new]⟩ store
    store.get? "a" "k" = .ok (some old) ∧ store.get? "a" "l" = .ok none ∧
      reply.answer = .ok 1 ∧ reply.state.get? "a" "k" = .ok (some new) := by
  intro old new keyless store reply
  have plain : ∀ given ∈ [⟨"a", [old]⟩, ⟨"a", [new, keyless]⟩] ++ [(⟨"a", [new]⟩ : Batch)],
      ∀ document ∈ given.documents, document.Plain Json.maxDepth := by
    have oldPlain : old.Plain Json.maxDepth := .object (by simp) (by simp [Json.Value.Plain.text])
    have newPlain : new.Plain Json.maxDepth :=
      .object (by decide) (by simp [Json.Value.Plain.text, Json.Value.Plain.bool])
    have keylessPlain : keyless.Plain Json.maxDepth :=
      .object (by simp) (by simp [Json.Value.Plain.null])
    simp [oldPlain, newPlain, keylessPlain]
  obtain ⟨shows, _, showsAfter, _, _, taken⟩ := store_refines_keyed_map _ _ plain
  exact ⟨shows "a" "k", shows "a" "l", (taken (by decide)).1, showsAfter "a" "k"⟩

end CodeGraph
