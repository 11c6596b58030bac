import CodeGraph.Proofs.Rerun

/-!
# What the search collection holds

The identifier of a search record writes slashes and points as underscores, so two names may share
one.  `search_run_keeps_last_of_id` says what an empty collection holds after a run: one record for
each identifier, that of the last name with it.  Nothing is lost just when the identifiers differ.
-/

set_option autoImplicit false

namespace CodeGraph

/-! ## Search records by name -/

def EntityGraph.searchDocument? (graph : EntityGraph) (qname : String) : Option SearchDocument :=
  (graph.get? qname).bind fun entity => entity.searchDocument? qname

theorem Entity.searchDocument?_isSome {entity : Entity} {qname : String} :
    (entity.searchDocument? qname).isSome ↔ entity.isSearchable qname := by
  unfold searchDocument?
  cases entity.isSearchable qname <;> simp

theorem Entity.searchDocument?_eq {entity : Entity} {qname : String} {document : SearchDocument}
    (indexed : entity.searchDocument? qname = some document) :
    document.id = searchId qname ∧ document.qname = qname := by
  unfold searchDocument? at indexed
  split at indexed
  case isTrue =>
    rw [← Option.some.inj indexed]
    exact ⟨rfl, rfl⟩
  case isFalse => cases indexed

theorem EntityGraph.searchDocument?_eq {graph : EntityGraph} {qname : String}
    {document : SearchDocument} (indexed : graph.searchDocument? qname = some document) :
    document.id = searchId qname ∧ document.qname = qname := by
  obtain ⟨entity, _, ofEntity⟩ := Option.bind_eq_some_iff.mp indexed
  exact Entity.searchDocument?_eq ofEntity

theorem EntityGraph.searchDocument?_of_searchable {graph : EntityGraph} {qname : String}
    {entity : Entity} (found : graph.get? qname = some entity)
    (searchable : entity.isSearchable qname) :
    ∃ document, graph.searchDocument? qname = some document := by
  rw [searchDocument?, found, Option.bind_some]
  exact Option.isSome_iff_exists.mp (Entity.searchDocument?_isSome.mpr searchable)

theorem EntityGraph.mem_searchDocuments {graph : EntityGraph} {document : SearchDocument} :
    document ∈ graph.searchDocuments ↔
      graph.searchDocument? document.qname = some document := by
  rw [searchDocuments, List.mem_filterMap]
  constructor
  · rintro ⟨⟨qname, entity⟩, member, indexed⟩
    rw [(Entity.searchDocument?_eq indexed).2]
    exact Option.bind_eq_some_iff.mpr ⟨entity, KeyMap.get?_eq_some_iff.mpr member, indexed⟩
  · intro indexed
    obtain ⟨entity, found, ofEntity⟩ := Option.bind_eq_some_iff.mp indexed
    exact ⟨(document.qname, entity), KeyMap.get?_eq_some_iff.mp found, ofEntity⟩

theorem EntityGraph.mem_of_searchDocument? {graph : EntityGraph} {qname : String}
    {document : SearchDocument} (indexed : graph.searchDocument? qname = some document) :
    document.id = searchId qname ∧ document ∈ graph.searchDocuments := by
  obtain ⟨isId, isName⟩ := searchDocument?_eq indexed
  exact ⟨isId, mem_searchDocuments.mpr (isName ▸ indexed)⟩

theorem EntityGraph.searchDocuments_ordered (graph : EntityGraph) :
    graph.searchDocuments.Pairwise fun first second => first.qname < second.qname := by
  apply List.Pairwise.filterMap _ _ graph.entities.ordered
  intro first second less firstDocument firstIndexed secondDocument secondIndexed
  rw [(Entity.searchDocument?_eq firstIndexed).2, (Entity.searchDocument?_eq secondIndexed).2]
  exact less

/-- Of the records with an identifier one is the last, and its name the greatest. -/
theorem EntityGraph.exists_last_searchDocument {graph : EntityGraph} {document : SearchDocument}
    (member : document ∈ graph.searchDocuments) :
    ∃ before last after, graph.searchDocuments = before ++ last :: after ∧
      last.id = document.id ∧ (∀ other ∈ after, other.id ≠ document.id) ∧
      ∀ other ∈ graph.searchDocuments, other.id = document.id → other.qname ≤ last.qname := by
  -- the records stand in the order of their names, so the last one has the greatest
  obtain ⟨before, last, after, parts, isLast, noneAfter⟩ := exists_last SearchDocument.id member
  refine ⟨before, last, after, parts, isLast, noneAfter, ?_⟩
  intro other isOther sameId
  have ordered := graph.searchDocuments_ordered
  rw [parts] at isOther ordered
  rcases List.mem_append.mp isOther with isBefore | isBehind
  · have less := (List.pairwise_append.mp ordered).2.2 other isBefore last List.mem_cons_self
    exact String.not_lt.mp fun more => String.lt_irrefl _ (String.lt_trans less more)
  · rcases List.mem_cons.mp isBehind with rfl | isAfter
    · exact String.le_refl _
    · exact absurd sameId (noneAfter other isAfter)

/-! ## The collection after a run -/

def SearchDocument.entry (document : SearchDocument) : String × String :=
  (document.id, .ofList document.toValue.compact)

theorem SearchDocument.filed_toValue (document : SearchDocument) :
    filed document.toValue = document.entry := by
  rw [filed, document.documentKey?_toValue]
  rfl

/-- A run into an empty collection leaves there the last record with each identifier. -/
theorem EntityGraph.collection_index_of_empty (graph : EntityGraph) {collection : String}
    {store : Store} (isEmpty : store.count collection = 0) (batchSize : Nat) :
    (graph.index collection Store.destination store batchSize).2.state.collection collection =
      .ofList (graph.searchDocuments.map SearchDocument.entry) := by
  rw [(graph.isIndexed_index store batchSize collection).documents,
    Store.collection_of_count isEmpty]
  exact congrArg KeyMap.ofList (List.map_congr_left fun document _ => document.filed_toValue)

theorem Store.get?_of_entry {store : Store} {collection : String} {document : SearchDocument}
    (found : (store.collection collection).get? document.id =
      some (.ofList document.toValue.compact)) :
    store.get? collection document.id = .ok (some document.toValue) := by
  simp only [get?, found, String.toList_ofList, document.parse_compact]

/-- A search run loses an entity where two names share an identifier.  Of `a.b` and `a_b` only one
record is left. -/
theorem search_run_loses_shared_id :
    ¬ ∀ (graph : EntityGraph) (collection : String) (batchSize : Nat),
      let run := graph.index collection Store.destination .empty batchSize
      run.1.failedDocuments = 0 →
        run.2.state.count collection = run.1.indexed ∧
        ∀ qname entity, graph.get? qname = some entity → entity.isSearchable qname →
          ∃ document, run.2.state.get? collection (searchId qname) = .ok (some document) ∧
            document.member? "qname" = some (.text qname) := by
  intro losesNothing
  let graph := EntityGraph.ofList [("a.b", .named "b" .function), ("a_b", .named "a_b" .function)]
  have counted := (losesNothing graph "code_nodes" 100 (by decide +kernel)).1
  exact absurd counted (by decide +kernel)

/-- A run into an empty collection loses no document on its way and leaves there, for each
identifier, the record of the greatest name with it.  So it holds as many records as there are
identifiers, and every one that was indexed just when no two names share an identifier. -/
theorem search_run_keeps_last_of_id (graph : EntityGraph) (collection : String) (store : Store)
    (isEmpty : store.count collection = 0) (batchSize : Nat) :
    let run := graph.index collection Store.destination store batchSize
    let ids := graph.searchDocuments.map SearchDocument.id
    run.1.AllWritten ∧
    (∀ key, key ∈ run.2.state.keys collection ↔ key ∈ ids) ∧
    run.2.state.count collection = ids.eraseDups.length ∧
    (∀ qname entity, graph.get? qname = some entity → entity.isSearchable qname →
      ∃ last document, graph.searchDocument? last = some document ∧
        searchId last = searchId qname ∧
        (∀ other, (graph.searchDocument? other).isSome → searchId other = searchId qname →
          other ≤ last) ∧
        run.2.state.get? collection (searchId qname) = .ok (some document.toValue) ∧
        document.toValue.member? "qname" = some (.text last)) ∧
    (run.2.state.count collection = run.1.indexed ↔ ids.Nodup) ∧
    (ids.Nodup → ∀ qname entity, graph.get? qname = some entity → entity.isSearchable qname →
      ∃ document, graph.searchDocument? qname = some document ∧
        run.2.state.get? collection (searchId qname) = .ok (some document.toValue) ∧
        document.toValue.member? "qname" = some (.text qname)) := by
  intro run ids
  have content := graph.collection_index_of_empty isEmpty batchSize
  have entryKeys : (graph.searchDocuments.map SearchDocument.entry).map Prod.fst = ids := by
    rw [List.map_map]
    rfl
  have counted : run.2.state.count collection = ids.eraseDups.length := by
    rw [Store.count, content, KeyMap.size_ofList, entryKeys]
  have kept : ∀ document ∈ graph.searchDocuments,
      ∃ last ∈ graph.searchDocuments, last.id = document.id ∧
        (∀ other ∈ graph.searchDocuments, other.id = document.id → other.qname ≤ last.qname) ∧
        run.2.state.get? collection document.id = .ok (some last.toValue) := by
    intro document member
    obtain ⟨before, last, after, parts, sameId, noneAfter, greatest⟩ :=
      EntityGraph.exists_last_searchDocument member
    refine ⟨last, by rw [parts]; simp, sameId, greatest, ?_⟩
    rw [← sameId]
    apply Store.get?_of_entry
    rw [content, parts, List.map_append, List.map_cons]
    apply KeyMap.get?_ofList_append
    rw [List.map_map]
    intro again
    obtain ⟨other, isAfter, isOther⟩ := List.mem_map.mp again
    exact noneAfter other isAfter (isOther.trans sameId)
  refine ⟨graph.allWritten_index collection Store.accepts trivial batchSize, ?_, counted, ?_, ?_,
    ?_⟩
  · intro key
    rw [Store.keys, content, KeyMap.mem_keys_ofList, entryKeys]
  · intro qname entity found searchable
    obtain ⟨document, indexed⟩ := EntityGraph.searchDocument?_of_searchable found searchable
    obtain ⟨isId, member⟩ := EntityGraph.mem_of_searchDocument? indexed
    obtain ⟨last, isLast, sameId, greatest, holds⟩ := kept document member
    rw [isId] at sameId greatest holds
    have lastIndexed := EntityGraph.mem_searchDocuments.mp isLast
    have lastId := (EntityGraph.searchDocument?_eq lastIndexed).1
    refine ⟨last.qname, last, lastIndexed, lastId.symm.trans sameId, ?_, holds,
      last.member?_qname⟩
    intro other isIndexed sharesId
    obtain ⟨otherDocument, otherIndexed⟩ := Option.isSome_iff_exists.mp isIndexed
    obtain ⟨otherId, otherName⟩ := EntityGraph.searchDocument?_eq otherIndexed
    have isOther := (EntityGraph.mem_of_searchDocument? otherIndexed).2
    exact otherName ▸ greatest otherDocument isOther (otherId.trans sharesId)
  · have indexed : run.1.indexed = ids.length :=
      (graph.indexed_index ..).trans (List.length_map SearchDocument.id).symm
    rw [counted, indexed]
    exact length_eraseDups_eq_iff
  · intro distinct qname entity found searchable
    obtain ⟨document, indexed⟩ := EntityGraph.searchDocument?_of_searchable found searchable
    obtain ⟨isId, member⟩ := EntityGraph.mem_of_searchDocument? indexed
    obtain ⟨last, isLast, sameId, _, holds⟩ := kept document member
    have isDocument : last = document := List.inj_on_of_nodup_map distinct isLast member sameId
    rw [isId, isDocument] at holds
    refine ⟨document, indexed, holds, ?_⟩
    rw [document.member?_qname, (EntityGraph.searchDocument?_eq indexed).2]

/-- Two functions of a module, and a name that shares the identifier of one of them. -/
theorem search_run_keeps_last_of_id_shared :
    let graph := EntityGraph.ofList
      [("m.f", .named "f" .function), ("m.g", .named "g" .function),
        ("m/f", .named "f" .function)]
    let run := graph.index "code_nodes" Store.destination .empty 2
    Store.empty.count "code_nodes" = 0 ∧ run.1.indexed = 3 ∧
      run.2.state.count "code_nodes" = 2 ∧ run.2.state.keys "code_nodes" = ["m_f", "m_g"] ∧
      ∃ last document, graph.searchDocument? last = some document ∧
        searchId last = searchId "m.f" ∧
        run.2.state.get? "code_nodes" (searchId "m.f") = .ok (some document.toValue) := by
  intro graph run
  obtain ⟨_, _, counted, kept, _⟩ := search_run_keeps_last_of_id graph "code_nodes" .empty rfl 2
  have found : ∃ entity, graph.get? "m.f" = some entity ∧ entity.isSearchable "m.f" = true :=
    ⟨.named "f" .function, by decide +kernel, by decide +kernel⟩
  obtain ⟨entity, isEntity, searchable⟩ := found
  obtain ⟨last, document, indexed, sameId, _, holds, _⟩ := kept "m.f" entity isEntity searchable
  exact ⟨rfl, by decide +kernel, counted.trans (by decide +kernel), by decide +kernel, last,
    document, indexed, sameId, holds⟩

end CodeGraph
