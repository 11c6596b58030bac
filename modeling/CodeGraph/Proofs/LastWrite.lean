import CodeGraph.Proofs.Documents
import CodeGraph.Proofs.Filing
import CodeGraph.Proofs.Text.ByteOrder

/-!
# The last write wins

A collection is the image of a list of documents if it has one key for each that a document has, and
under a key the last document with it.  A collection into which the documents were put, one after
the other, is their image: `Store.isImage_of_collection`.
-/

set_option autoImplicit false

namespace CodeGraph

def Json.Value.textAt? (document : Json.Value) (field : String) : Option String :=
  (document.member? field).bind text?

theorem Json.Value.textAt?_of_member {document : Json.Value} {field text : String}
    (holds : document.member? field = some (.text text)) : document.textAt? field = some text := by
  rw [textAt?, holds]
  rfl

theorem documentKey?_eq (document : Json.Value) :
    documentKey? document = (document.textAt? "_key").or (document.textAt? "id") := by
  rw [documentKey?, keyFields, List.findSome?_cons, List.findSome?_cons, List.findSome?_nil]
  change _ = Option.or ((document.member? "_key").bind _) ((document.member? "id").bind _)
  cases (document.member? "_key").bind Json.Value.text? <;>
    cases (document.member? "id").bind Json.Value.text? <;> rfl

def lastWith? (keyOf : Json.Value → Option String) (key : String) (documents : List Json.Value) :
    Option Json.Value :=
  (documents.filter fun document => keyOf document = some key).getLast?

/-- A collection of a store holds, under the keys that the documents of a list have, the last
document with each. -/
structure Store.IsImage (store : Store) (collection : String) (keyOf : Json.Value → Option String)
    (documents : List Json.Value) : Prop where
  /-- The keys stand in the order of their bytes, each once. -/
  ordered : (store.keys collection).Pairwise fun first second =>
    Text.bytesOf first < Text.bytesOf second
  covers : ∀ key, key ∈ store.keys collection ↔ some key ∈ documents.map keyOf
  counted : store.count collection = (documents.filterMap keyOf).eraseDups.length
  last : ∀ key, store.get? collection key = .ok (lastWith? keyOf key documents)

theorem lastWith?_append (keyOf : Json.Value → Option String) (key : String)
    (first second : List Json.Value) :
    lastWith? keyOf key (first ++ second) =
      (lastWith? keyOf key second).or (lastWith? keyOf key first) := by
  rw [lastWith?, List.filter_append, List.getLast?_append]
  rfl

theorem lastWith?_singleton (keyOf : Json.Value → Option String) (key : String)
    (document : Json.Value) :
    lastWith? keyOf key [document] = if keyOf document = some key then some document else none := by
  unfold lastWith?
  by_cases hasKey : keyOf document = some key <;> simp [hasKey]

/-- What is filed under a key is the text of the last document with it. -/
theorem lookup_reverse_filed {documents : List Json.Value}
    (keyed : ∀ document ∈ documents, (documentKey? document).isSome) (key : String) :
    (documents.map filed).reverse.lookup key =
      (lastWith? documentKey? key documents).map fun document => .ofList document.compact := by
  have sameKey : ∀ document ∈ documents,
      ((filed document).1 = key ↔ documentKey? document = some key) := by
    intro document member
    obtain ⟨own, hasOwn⟩ := Option.isSome_iff_exists.mp (keyed document member)
    simp [filed, hasOwn]
  have sameEntries : (documents.map filed).filter (fun entry => entry.1 = key) =
      (documents.filter fun document => documentKey? document = some key).map filed := by
    rw [List.filter_map]
    exact congrArg (List.map filed) (List.filter_congr fun document member =>
      decide_eq_decide.mpr (sameKey document member))
  rw [KeyMap.lookup_reverse, sameEntries, List.getLast?_map, Option.map_map]
  rfl

theorem map_fst_filed {documents : List Json.Value}
    (keyed : ∀ document ∈ documents, (documentKey? document).isSome) :
    (documents.map filed).map Prod.fst = documents.filterMap documentKey? := by
  induction documents with
  | nil => rfl
  | cons first later inductionHypothesis =>
      obtain ⟨key, hasKey⟩ := Option.isSome_iff_exists.mp (keyed first List.mem_cons_self)
      have laterKeys := inductionHypothesis fun document member =>
        keyed document (List.mem_cons_of_mem first member)
      rw [List.map_cons, List.map_cons, laterKeys, List.filterMap_cons_some hasKey, filed, hasKey]
      rfl

namespace Store

theorem keys_ordered (store : Store) (collection : String) :
    (store.keys collection).Pairwise fun first second =>
      Text.bytesOf first < Text.bytesOf second := by
  refine List.pairwise_map.mpr ((store.collection collection).ordered.imp ?_)
  intro first second less
  exact Text.lt_iff_bytesOf_lt.mp less

theorem count_eq (store : Store) (collection : String) :
    store.count collection = (store.keys collection).length :=
  KeyMap.size_eq _

/-- A collection that documents with keys were put into is their image, if their texts give them
back. -/
theorem isImage_of_collection {store : Store} {collection : String}
    {keyOf : Json.Value → Option String} {documents : List Json.Value}
    (content : store.collection collection = .ofList (documents.map filed))
    (sameKey : ∀ document ∈ documents, documentKey? document = keyOf document)
    (keyed : ∀ document ∈ documents, (documentKey? document).isSome)
    (readBack : ∀ document ∈ documents, Json.parse document.compact = .ok document) :
    store.IsImage collection keyOf documents where
  ordered := store.keys_ordered collection
  covers key := by
    rw [keys, content, KeyMap.mem_keys_ofList, map_fst_filed keyed, List.mem_filterMap,
      List.mem_map]
    constructor
    · rintro ⟨document, member, hasKey⟩
      exact ⟨document, member, sameKey document member ▸ hasKey⟩
    · rintro ⟨document, member, hasKey⟩
      exact ⟨document, member, (sameKey document member).trans hasKey⟩
  counted := by
    rw [count, content, KeyMap.size_ofList, map_fst_filed keyed, List.filterMap_congr sameKey]
  last key := by
    have found : (store.collection collection).get? key =
        (lastWith? documentKey? key documents).map fun document => .ofList document.compact := by
      rw [content, KeyMap.get?_ofList, lookup_reverse_filed keyed]
    have sameLast : lastWith? documentKey? key documents = lastWith? keyOf key documents := by
      rw [lastWith?, lastWith?,
        List.filter_congr fun document member => by rw [sameKey document member]]
    rw [get?, found, sameLast]
    cases isLast : lastWith? keyOf key documents with
    | none => rfl
    | some document =>
        have member : document ∈ documents := List.mem_of_mem_filter (List.mem_of_getLast? isLast)
        simp only [Option.map_some, String.toList_ofList, readBack document member]

end Store

end CodeGraph
