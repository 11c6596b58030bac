import CodeGraph.Proofs.LastWrite
import CodeGraph.Proofs.Statistics

/-!
# A store against a dry run

A dry run into memory keeps every document that is queued.  A run into an empty store leaves there
the image of those: under each key the last document with it, however the two runs cut their
batches.  `store_is_image_of_dry_run` says so for both kinds of runs.
-/

set_option autoImplicit false

namespace CodeGraph

/-! ## Runs into memory -/

theorem Progress.kept_handleAll_memory (progress : Progress Memory)
    (unplanned : progress.state.plan = []) (outgoing : List Outgoing) :
    (progress.handleAll Memory.destination outgoing).state.kept.toList =
      progress.state.kept.toList ++ sent outgoing := by
  induction outgoing generalizing progress with
  | nil => simp [Progress.handleAll, sent]
  | cons first later inductionHypothesis =>
      have step : progress.handleAll Memory.destination (first :: later) =
          (progress.handle Memory.destination first).handleAll Memory.destination later := rfl
      cases first with
      | send batch =>
          have head : sent (.send batch :: later) = batch :: sent later := rfl
          have keeps : (progress.handle Memory.destination (.send batch)).state =
              { kept := progress.state.kept.push batch, plan := [] } := by
            simp [Progress.handle, Memory.destination, Memory.answer, unplanned, Memory.keep]
          rw [step, inductionHypothesis _ (congrArg Memory.plan keeps), keeps, head]
          simp
      | givenUp => exact inductionHypothesis _ unplanned
      | note => exact inductionHypothesis _ unplanned

/-- A dry run holds for a collection what was queued for it. -/
theorem Writer.documents_finish_memory (orders : List Order) (batchSize : Nat)
    (collection : String) :
    ((Writer.start Memory.destination {} batchSize).followAll orders).finish.state.documents
      collection = pushedTo collection orders := by
  have kept := Progress.kept_handleAll_memory { state := {} } rfl
    ((Buffers.ofSize batchSize).followAll (orders ++ [.flush])).1
  rw [← Buffers.sentTo_flushed batchSize, Writer.finish_followAll, Writer.followAll_eq,
    Memory.documents]
  simp only [Writer.start, kept]
  simp [sentTo, chunksTo, List.flatMap_def]

/-! ## Runs into an empty store -/

/-- What a run queues: a document that is filed under the key that it states, and that its text
gives back. -/
structure Json.Value.IsRecord (keyOf : Json.Value → Option String) (document : Json.Value) :
    Prop where
  keyed : (keyOf document).isSome
  sameKey : documentKey? document = keyOf document
  readBack : Json.parse document.compact = .ok document

theorem Writer.isImage_finish {orders : List Order} {keyOf : Json.Value → Option String}
    (records : ∀ push ∈ pushes orders, push.2.IsRecord keyOf) {store : Store} {collection : String}
    (isEmpty : store.count collection = 0) (batchSize : Nat) :
    ((Writer.start Store.destination store batchSize).followAll orders).finish.state.IsImage
      collection keyOf (pushedTo collection orders) := by
  have queued : ∀ document ∈ pushedTo collection orders, document.IsRecord keyOf :=
    fun document member => records _ (mem_pushedTo.mp member)
  have keyed : ∀ push ∈ pushes orders, (documentKey? push.2).isSome := by
    intro push member
    rw [(records push member).sameKey]
    exact (records push member).keyed
  refine Store.isImage_of_collection ?_ (fun document member => (queued document member).sameKey)
    ?_ (fun document member => (queued document member).readBack)
  · rw [Writer.collection_finish_store keyed, Store.collection_of_count isEmpty]
    rfl
  · intro document member
    rw [(queued document member).sameKey]
    exact (queued document member).keyed

theorem Json.Value.isRecord_key {document : Json.Value} {key : String}
    (isKey : document.member? "_key" = some (.text key))
    (readBack : Json.parse document.compact = .ok document) :
    document.IsRecord fun document => document.textAt? "_key" := by
  have hasKey : document.textAt? "_key" = some key := textAt?_of_member isKey
  exact ⟨by rw [hasKey]; rfl, by rw [documentKey?_of_key isKey, hasKey], readBack⟩

theorem SearchDocument.textAt?_id (document : SearchDocument) :
    document.toValue.textAt? "id" = some document.id :=
  Json.Value.textAt?_of_member document.member?_id

theorem NodeDocument.textAt?_key (document : NodeDocument) :
    document.toValue.textAt? "_key" = some document.key :=
  Json.Value.textAt?_of_member document.member?_key

theorem Transformation.records_orders (result : Transformation) :
    ∀ push ∈ pushes result.orders,
      push.2.IsRecord fun document => document.textAt? "_key" := by
  intro push member
  rw [pushes_orders] at member
  rcases List.mem_append.mp member with isNode | isEdge
  · obtain ⟨node, _, rfl⟩ := List.mem_map.mp isNode
    exact Json.Value.isRecord_key node.document.member?_key node.document.parse_compact
  · obtain ⟨edge, _, rfl⟩ := List.mem_map.mp isEdge
    exact Json.Value.isRecord_key edge.document.member?_key edge.document.parse_compact

theorem EntityGraph.records_searchOrders (graph : EntityGraph) (collection : String) :
    ∀ push ∈ pushes (graph.searchOrders collection),
      push.2.IsRecord fun document => document.textAt? "id" := by
  rw [pushes_searchOrders]
  intro push member
  obtain ⟨document, _, rfl⟩ := List.mem_map.mp member
  refine ⟨?_, ?_, document.parse_compact⟩
  · rw [document.textAt?_id]
    rfl
  · rw [document.textAt?_id]
    exact document.documentKey?_toValue

/-! ## Keys of nodes -/

theorem Entity.key_of_node? {entity : Entity} {qname : String} {graph : EntityGraph}
    {node : GraphNode} (isNode : entity.node? qname graph = some node) :
    node.document.key = storageKey qname := by
  obtain ⟨other, isOther, _, isKey⟩ :=
    Entity.node?_of_nodeClass (Entity.nodeClass_of_node? isNode) qname
  rw [Option.some.inj (isNode.symm.trans isOther), isKey]

/-- The keys of the nodes are among those of the names, each as often at most. -/
theorem EntityGraph.keys_nodes_sublist (graph : EntityGraph) :
    (graph.transform.nodes.map fun node => node.document.key).Sublist
      (graph.qnames.map storageKey) := by
  rw [nodes_eq, qnames, KeyMap.keys, List.map_map]
  change List.Sublist _ (graph.toList.map _)
  induction graph.toList with
  | nil => exact List.Sublist.slnil
  | cons entry later inductionHypothesis =>
      cases isNode : entry.2.node? entry.1 graph with
      | none =>
          simp only [List.filterMap_cons, isNode]
          exact inductionHypothesis.cons _
      | some node =>
          simp only [List.filterMap_cons, isNode, List.map_cons, Entity.key_of_node? isNode]
          exact inductionHypothesis.cons_cons _

/-- If the keys of the names differ, a collection of nodes has one document for each node. -/
theorem EntityGraph.length_keys_nodes {graph : EntityGraph}
    (distinct : (graph.qnames.map storageKey).Nodup) (nodeClass : NodeClass) :
    ((pushedTo nodeClass.name graph.transform.orders).filterMap fun document =>
        document.textAt? "_key").eraseDups.length =
      ((graph.transform.nodes.map fun node => node.nodeClass.name).count nodeClass.name) := by
  let inClass := graph.transform.nodes.filter fun node => node.nodeClass = nodeClass
  have keys : ((pushedTo nodeClass.name graph.transform.orders).filterMap fun document =>
      document.textAt? "_key") = inClass.map fun node => node.document.key := by
    rw [Transformation.pushedTo_nodeClass, List.filterMap_map, ← List.filterMap_eq_map]
    refine List.filterMap_congr fun node _ => ?_
    rw [Function.comp_apply, node.document.textAt?_key, Function.comp_apply]
  -- a key that came twice would be that of two names
  have distinctKeys : (inClass.map fun node => node.document.key).Nodup :=
    distinct.sublist ((List.filter_sublist.map _).trans graph.keys_nodes_sublist)
  have counted : (graph.transform.nodes.map fun node => node.nodeClass.name).count
      nodeClass.name = inClass.length := by
    rw [List.count, List.countP_map, List.countP_eq_length_filter]
    refine congrArg List.length (List.filter_congr fun node _ => Bool.eq_iff_iff.mpr ?_)
    simp [NodeClass.name_inj]
  rw [keys, length_eraseDups_eq_iff.mpr distinctKeys, List.length_map, counted]

theorem EntityGraph.ids_searchOrders (graph : EntityGraph) (collection : String) :
    ((pushedTo collection (graph.searchOrders collection)).filterMap fun document =>
      document.textAt? "id") = graph.searchDocuments.map SearchDocument.id := by
  rw [EntityGraph.pushedTo_searchOrders, List.filterMap_map, ← List.filterMap_eq_map]
  refine List.filterMap_congr fun document _ => ?_
  rw [Function.comp_apply, document.textAt?_id, Function.comp_apply]

/-- A dry run holds the records of a graph, each class its own.  A run into an empty store leaves
there the image of what a dry run holds, whatever the two batch sizes are: in every collection the
keys are those of the documents, in the order of their bytes and each once, and under each stands
the last document with it.  So each class of nodes has as many documents as the run states if no two
names share a key, and the search collection as many as were indexed if no two records share an
identifier. -/
theorem store_is_image_of_dry_run (graph : EntityGraph) (collection : String) (store : Store)
    (isEmpty : ∀ name, store.count name = 0) (drySize batchSize : Nat) :
    (let dry := (graph.write Memory.destination {} drySize).2.state
      let run := graph.write Store.destination store batchSize
      (∀ nodeClass : NodeClass, dry.documents nodeClass.name =
        (graph.transform.nodes.filter fun node => node.nodeClass = nodeClass).map fun node =>
          node.document.toValue) ∧
      (∀ edgeClass : EdgeClass, dry.documents edgeClass.name =
        (graph.transform.edges.filter fun edge => edge.edgeClass = edgeClass).map fun edge =>
          edge.document.toValue) ∧
      (∀ name, (∀ document ∈ dry.documents name, (document.textAt? "_key").isSome) ∧
        run.2.state.IsImage name (fun document => document.textAt? "_key")
          (dry.documents name)) ∧
      ((graph.qnames.map storageKey).Nodup → ∀ nodeClass : NodeClass,
        run.2.state.count nodeClass.name =
          (run.1.nodesByClass.get? nodeClass.name).getD 0)) ∧
    (let dry := (graph.index collection Memory.destination {} drySize).2.state
      let run := graph.index collection Store.destination store batchSize
      dry.documents collection = graph.searchDocuments.map SearchDocument.toValue ∧
      (∀ name, (∀ document ∈ dry.documents name, (document.textAt? "id").isSome) ∧
        run.2.state.IsImage name (fun document => document.textAt? "id")
          (dry.documents name)) ∧
      ((graph.searchDocuments.map SearchDocument.id).Nodup →
        run.2.state.count collection = run.1.indexed)) := by
  constructor
  · simp only [EntityGraph.write_eq, Writer.documents_finish_memory]
    have records := graph.transform.records_orders
    refine ⟨graph.transform.pushedTo_nodeClass, graph.transform.pushedTo_edgeClass, ?_, ?_⟩
    · intro name
      exact ⟨fun document member => (records _ (mem_pushedTo.mp member)).keyed,
        Writer.isImage_finish records (isEmpty name) batchSize⟩
    · intro distinct nodeClass
      have image := Writer.isImage_finish records (isEmpty nodeClass.name) batchSize
      refine image.counted.trans ?_
      rw [EntityGraph.length_keys_nodes distinct, ← KeyMap.get?_tally]
      rfl
  · simp only [EntityGraph.index_eq, Writer.documents_finish_memory]
    have records := graph.records_searchOrders collection
    refine ⟨graph.pushedTo_searchOrders collection, ?_, ?_⟩
    · intro name
      exact ⟨fun document member => (records _ (mem_pushedTo.mp member)).keyed,
        Writer.isImage_finish records (isEmpty name) batchSize⟩
    · intro distinct
      have image := Writer.isImage_finish records (isEmpty collection) batchSize
      refine image.counted.trans ?_
      rw [graph.ids_searchOrders, length_eraseDups_eq_iff.mpr distinct, List.length_map]
      rfl

/-- A function calls another at two places.  The dry run holds two records of the one edge, the
store the last of them. -/
theorem store_is_image_of_dry_run_repeated :
    let call := Relation.between .calls "m.f" "m.g"
    let graph := EntityGraph.ofList
      [("m.f", { Entity.named "f" .function with relations := [call.atLine 3, call.atLine 5] }),
        ("m.g", .named "g" .function)]
    let dry := (graph.write Memory.destination {} 1).2.state
    let run := graph.write Store.destination .empty 100
    (∀ name, Store.empty.count name = 0) ∧ (graph.qnames.map storageKey).Nodup ∧
      (dry.documents "calls").length = 2 ∧ run.2.state.count "calls" = 1 ∧
      run.2.state.count "functions" = 2 := by
  intro call graph dry run
  have isEmpty : ∀ name, Store.empty.count name = 0 := fun _ => rfl
  have distinct : (graph.qnames.map storageKey).Nodup := by decide +kernel
  obtain ⟨⟨_, _, images, counts⟩, _⟩ :=
    store_is_image_of_dry_run graph "code_nodes" .empty isEmpty 1 100
  refine ⟨isEmpty, distinct, by decide +kernel, ?_, ?_⟩
  · rw [(images "calls").2.counted]
    decide +kernel
  · change run.2.state.count NodeClass.functions.name = 2
    rw [counts distinct .functions]
    decide +kernel

end CodeGraph
