import CodeGraph.Proofs.LastWrite
import CodeGraph.Proofs.Rerun

/-!
# The order and the place of relations

The classes of entities do not depend on relations, and a relation resolves by itself: neither the
entity it stands at nor the relations before it matter.  So graphs that have the same relations, in
another order or at other entities, give the same nodes and numbers and, up to order, the same
edges.
-/

set_option autoImplicit false

namespace CodeGraph

variable {σ τ : Type}

def Entity.withoutRelations (entity : Entity) : Entity :=
  { entity with relations := [] }

def EntityGraph.withoutRelations (graph : EntityGraph) : EntityGraph where
  entities := {
    entries := graph.toList.map fun entry => (entry.1, entry.2.withoutRelations)
    ordered := List.pairwise_map.mpr graph.entities.ordered }

/-! ## Classes do not depend on relations -/

namespace EntityGraph

variable (graph : EntityGraph)

theorem get?_withoutRelations (qname : String) :
    graph.withoutRelations.get? qname = (graph.get? qname).map Entity.withoutRelations := by
  change List.lookup qname (graph.toList.map _) = (List.lookup qname graph.toList).map _
  induction graph.toList with
  | nil => rfl
  | cons first later inductionHypothesis =>
      rw [List.map_cons, List.lookup_cons, List.lookup_cons, inductionHypothesis]
      cases qname == first.1 <;> rfl

theorem kindOf?_withoutRelations (qname : String) :
    graph.withoutRelations.kindOf? qname = graph.kindOf? qname := by
  rw [kindOf?, kindOf?, get?_withoutRelations]
  cases graph.get? qname <;> rfl

theorem ancestorsFrom_withoutRelations (rounds : Nat) (seen : List String)
    (qname? : Option String) :
    graph.withoutRelations.ancestorsFrom rounds seen qname? =
      (graph.ancestorsFrom rounds seen qname?).map Entity.withoutRelations := by
  induction rounds generalizing seen qname? with
  | zero => rfl
  | succ rounds inductionHypothesis =>
      cases qname? with
      | none => rfl
      | some qname =>
          rw [ancestorsFrom, ancestorsFrom, get?_withoutRelations]
          by_cases again : seen.contains qname = true
          · rw [if_pos again, if_pos again]
            rfl
          · rw [if_neg again, if_neg again]
            cases graph.get? qname with
            | none => rfl
            | some entity =>
                exact congrArg (entity.withoutRelations :: ·)
                  (inductionHypothesis (qname :: seen) entity.parent)

end EntityGraph

namespace Entity

variable (entity : Entity) (graph : EntityGraph)

theorem isFunctionLocal_withoutRelations :
    entity.withoutRelations.isFunctionLocal graph.withoutRelations =
      entity.isFunctionLocal graph := by
  have sameSize : graph.withoutRelations.size = graph.size := List.length_map _
  have sameParent : entity.withoutRelations.parent = entity.parent := rfl
  rw [isFunctionLocal, isFunctionLocal, sameParent]
  cases entity.parent with
  | none => rfl
  | some parent =>
      simp only [EntityGraph.ancestors, sameSize, EntityGraph.ancestorsFrom_withoutRelations,
        List.any_map]
      rfl

theorem nodeClass?_withoutRelations :
    entity.withoutRelations.nodeClass? graph.withoutRelations = entity.nodeClass? graph := by
  have sameKind : entity.withoutRelations.kind = entity.kind := rfl
  rw [nodeClass?, nodeClass?, isFunctionLocal_withoutRelations, sameKind]

theorem node?_withoutRelations (qname : String) :
    entity.withoutRelations.node? qname graph.withoutRelations = entity.node? qname graph := by
  have sameMethod : entity.withoutRelations.isMethod graph.withoutRelations =
      entity.isMethod graph := by
    rw [isMethod, isMethod, funext graph.kindOf?_withoutRelations]
    rfl
  rw [node?, node?, nodeClass?_withoutRelations, sameMethod]
  rfl

end Entity

theorem RoutingTable.ofGraph_withoutRelations (graph : EntityGraph) :
    RoutingTable.ofGraph graph.withoutRelations = RoutingTable.ofGraph graph := by
  have sameRoutes : graph.withoutRelations.routes = graph.routes := by
    change List.filterMap _ (graph.toList.map _) = List.filterMap _ graph.toList
    rw [List.filterMap_map]
    refine List.filterMap_congr fun entry _ => ?_
    simp only [Function.comp_apply, Entity.nodeClass?_withoutRelations]
  exact congrArg RoutingTable.ofList sameRoutes

/-- A relation looks up nothing but the kind of its target in the graph. -/
theorem Relation.resolve_withoutRelations (relation : Relation) (table : RoutingTable)
    (graph : EntityGraph) :
    relation.resolve table graph.withoutRelations = relation.resolve table graph := by
  have sameTarget : effectiveTarget table graph.withoutRelations =
      effectiveTarget table graph := by
    funext edgeClass target
    simp only [effectiveTarget, EntityGraph.kindOf?_withoutRelations]
  simp only [resolve, sameTarget]

/-- What becomes of a graph follows from its entities without their relations, and from the
relations one by one. -/
theorem EntityGraph.transform_eq (graph : EntityGraph) :
    graph.transform = {
      entities := graph.withoutRelations.toList.map fun entry =>
        (entry.1, entry.2.node? entry.1 graph.withoutRelations)
      relations := graph.relations.map fun relation => (relation,
        relation.resolve (.ofGraph graph.withoutRelations) graph.withoutRelations) } := by
  have sameEntities : (graph.withoutRelations.toList.map fun entry =>
      (entry.1, entry.2.node? entry.1 graph.withoutRelations)) =
        graph.toList.map fun entry => (entry.1, entry.2.node? entry.1 graph) := by
    change List.map _ (graph.toList.map _) = _
    rw [List.map_map]
    refine List.map_congr_left fun entry _ => ?_
    simp only [Function.comp_apply, Entity.node?_withoutRelations]
  simp only [transform, sameEntities, RoutingTable.ofGraph_withoutRelations,
    Relation.resolve_withoutRelations]

/-! ## Transformations with reordered relations -/

/-- The same became of the entities, and of the relations in any order. -/
structure Transformation.Reordered (first second : Transformation) : Prop where
  entities : first.entities = second.entities
  relations : first.relations.Perm second.relations

/-- Graphs with the same entities but for the relations, and with the same relations over all. -/
theorem EntityGraph.reordered_transform {first second : EntityGraph}
    (sameEntities : ∀ qname, (first.get? qname).map Entity.withoutRelations =
      (second.get? qname).map Entity.withoutRelations)
    (sameRelations : first.relations.Perm second.relations) :
    first.transform.Reordered second.transform := by
  -- entries stand in the order of their names, so what is found under each name decides
  have same : first.withoutRelations = second.withoutRelations := by
    refine congrArg EntityGraph.mk (KeyMap.ext_get? fun qname => ?_)
    exact (first.get?_withoutRelations qname).trans
      ((sameEntities qname).trans (second.get?_withoutRelations qname).symm)
  rw [first.transform_eq, second.transform_eq, same]
  exact ⟨rfl, sameRelations.map _⟩

namespace Transformation.Reordered

variable {first second : Transformation}

theorem nodes (reordered : first.Reordered second) : first.nodes = second.nodes :=
  congrArg (List.filterMap Prod.snd) reordered.entities

theorem edges (reordered : first.Reordered second) : first.edges.Perm second.edges :=
  reordered.relations.filterMap _

theorem dropped (reordered : first.Reordered second) : first.dropped = second.dropped := by
  have sameReasons : first.reasons.Perm second.reasons := reordered.relations.filterMap _
  simp only [Transformation.dropped, sameReasons.count_eq]

theorem pushedTo (reordered : first.Reordered second) (collection : String) :
    (pushedTo collection first.orders).Perm (CodeGraph.pushedTo collection second.orders) := by
  rw [CodeGraph.pushedTo, CodeGraph.pushedTo, pushes_orders, pushes_orders, reordered.nodes]
  exact (((reordered.edges.map _).append_left _).filter _).map _

theorem pushedTo_nodeClass (reordered : first.Reordered second) (nodeClass : NodeClass) :
    CodeGraph.pushedTo nodeClass.name first.orders =
      CodeGraph.pushedTo nodeClass.name second.orders := by
  rw [Transformation.pushedTo_nodeClass, Transformation.pushedTo_nodeClass, reordered.nodes]

theorem ofReport_eq (reordered : first.Reordered second) {report other : WriteReport}
    (complete : report.Complete first.orders) (otherComplete : other.Complete second.orders) :
    GraphStats.ofReport first report = GraphStats.ofReport second other := by
  have sameDelivered : report.deliveredTo = other.deliveredTo := by
    funext collection
    rw [complete.deliveredTo, otherComplete.deliveredTo, (reordered.pushedTo collection).length_eq]
  have sameClasses : KeyMap.tally (first.edges.map fun edge => edge.edgeClass.name) =
      KeyMap.tally (second.edges.map fun edge => edge.edgeClass.name) :=
    KeyMap.tally_perm (reordered.edges.map _)
  simp only [GraphStats.ofReport, reordered.entities, reordered.nodes, reordered.dropped,
    reordered.relations.length_eq, reordered.edges.length_eq, sameClasses, sameDelivered,
    complete.failedBatches, otherComplete.failedBatches, complete.failedDocuments,
    otherComplete.failedDocuments]

end Transformation.Reordered

/-! ## Stores -/

/-- A run left under a key one of the documents or, if there is none, what was there before. -/
def Store.LeavesOneOf (before after : Store) (collection key : String)
    (documents : List Json.Value) : Prop :=
  (documents = [] → after.get? collection key = before.get? collection key) ∧
    (documents ≠ [] → ∃ document ∈ documents,
      after.get? collection key = .ok (some document))

/-- What documents with keys were put into a collection, and their texts give them back. -/
theorem Store.leavesOneOf_putAll {before after : Store} {collection : String}
    {documents : List Json.Value}
    (content : after.collection collection =
      (before.collection collection).putAll (documents.map filed))
    (keyed : ∀ document ∈ documents, (documentKey? document).isSome)
    (readBack : ∀ document ∈ documents, Json.parse document.compact = .ok document)
    (key : String) :
    before.LeavesOneOf after collection key
      (documents.filter fun document => documentKey? document = some key) := by
  have found : (after.collection collection).get? key =
      ((lastWith? documentKey? key documents).map fun document =>
        .ofList document.compact).or ((before.collection collection).get? key) := by
    rw [content, KeyMap.get?_putAll, lookup_reverse_filed keyed]
  constructor
  · intro none
    have noLast : lastWith? documentKey? key documents = .none := by rw [lastWith?, none]; rfl
    rw [get?, get?, found, noLast, Option.map_none, Option.none_or]
  · intro some
    obtain ⟨last, isLast⟩ := Option.isSome_iff_exists.mp (List.getLast?_isSome.mpr some)
    have holds : lastWith? documentKey? key documents = .some last := isLast
    have inFilter := List.mem_of_getLast? isLast
    refine ⟨last, inFilter, ?_⟩
    rw [get?, found, holds]
    simp only [Option.map_some, Option.some_or, String.toList_ofList,
      readBack last (List.mem_of_mem_filter inFilter)]

def EntityGraph.edgeRecords (graph : EntityGraph) (edgeClass : EdgeClass) (key : String) :
    List Json.Value :=
  (graph.transform.edges.filter fun edge =>
    edge.edgeClass = edgeClass ∧ edge.document.key = key).map fun edge => edge.document.toValue

theorem EntityGraph.leavesOneOf_write (graph : EntityGraph) (store : Store) (batchSize : Nat)
    (edgeClass : EdgeClass) (key : String) :
    store.LeavesOneOf (graph.write Store.destination store batchSize).2.state edgeClass.name key
      (graph.edgeRecords edgeClass key) := by
  have queued : ∀ document ∈ pushedTo edgeClass.name graph.transform.orders,
      ∃ edge : GraphEdge, edge.document.toValue = document := by
    intro document member
    rw [Transformation.pushedTo_edgeClass] at member
    obtain ⟨edge, _, isDocument⟩ := List.mem_map.mp member
    exact ⟨edge, isDocument⟩
  have records : (pushedTo edgeClass.name graph.transform.orders).filter (fun document =>
      documentKey? document = some key) = graph.edgeRecords edgeClass key := by
    rw [Transformation.pushedTo_edgeClass, edgeRecords, List.filter_map, List.filter_filter]
    refine congrArg _ (List.filter_congr fun edge _ => Bool.eq_iff_iff.mpr ?_)
    simp [EdgeDocument.documentKey?_toValue, and_comm]
  rw [← records]
  refine Store.leavesOneOf_putAll (graph.collection_write store batchSize _) ?_ ?_ key
  · intro document member
    obtain ⟨edge, rfl⟩ := queued document member
    rw [edge.document.documentKey?_toValue]
    rfl
  · intro document member
    obtain ⟨edge, rfl⟩ := queued document member
    exact edge.document.parse_compact

/-- Neither the order of relations nor the entities they stand at matter.  Two graphs whose entities
differ at most in their relations, and that have the same relations over all, give the same numbers
where everything is taken, the same records of nodes for each class, and the same records of edges
up to their order.  Runs into a store leave the same keys and the same nodes; under the key of edges
each leaves one of their records, and these are the same for both. -/
theorem relation_order_does_not_matter {first second : EntityGraph}
    (sameEntities : ∀ qname, (first.get? qname).map Entity.withoutRelations =
      (second.get? qname).map Entity.withoutRelations)
    (sameRelations : first.relations.Perm second.relations)
    (destination : Destination σ) (state : σ) (firstSize : Nat)
    (other : Destination τ) (otherState : τ) (secondSize : Nat) :
    (∀ ready otherReady,
      destination.Accepts ready Batch.Keyed → ready state →
      other.Accepts otherReady Batch.Keyed → otherReady otherState →
        (first.write destination state firstSize).1 =
          (second.write other otherState secondSize).1) ∧
    (let calls := first.calls destination state firstSize
      let otherCalls := second.calls other otherState secondSize
      (∀ nodeClass : NodeClass,
        sentTo nodeClass.name calls = sentTo nodeClass.name otherCalls) ∧
      ∀ edgeClass : EdgeClass,
        (sentTo edgeClass.name calls).Perm (sentTo edgeClass.name otherCalls)) ∧
    ∀ store : Store,
      let firstStore := (first.write Store.destination store firstSize).2.state
      let secondStore := (second.write Store.destination store secondSize).2.state
      (∀ collection, firstStore.keys collection = secondStore.keys collection) ∧
      (∀ (nodeClass : NodeClass) (key : String),
        firstStore.get? nodeClass.name key = secondStore.get? nodeClass.name key) ∧
      ∀ (edgeClass : EdgeClass) (key : String),
        (first.edgeRecords edgeClass key).Perm (second.edgeRecords edgeClass key) ∧
        store.LeavesOneOf firstStore edgeClass.name key (first.edgeRecords edgeClass key) ∧
        store.LeavesOneOf secondStore edgeClass.name key (second.edgeRecords edgeClass key) := by
  have reordered := EntityGraph.reordered_transform sameEntities sameRelations
  refine ⟨?_, ⟨?_, ?_⟩, ?_⟩
  · intro ready otherReady accepts isReady otherAccepts otherIsReady
    rw [first.stats_write, second.stats_write]
    exact reordered.ofReport_eq (first.complete_write accepts isReady firstSize)
      (second.complete_write otherAccepts otherIsReady secondSize)
  · intro nodeClass
    rw [EntityGraph.sentTo_calls, EntityGraph.sentTo_calls, reordered.pushedTo_nodeClass]
  · intro edgeClass
    rw [EntityGraph.sentTo_calls, EntityGraph.sentTo_calls]
    exact reordered.pushedTo edgeClass.name
  · intro store firstStore secondStore
    refine ⟨?_, ?_, ?_⟩
    · intro collection
      refine KeyMap.keys_eq_keys fun key => ?_
      rw [first.collection_write, second.collection_write, KeyMap.mem_keys_putAll,
        KeyMap.mem_keys_putAll, (((reordered.pushedTo collection).map filed).map Prod.fst).mem_iff]
    · intro nodeClass key
      rw [Store.get?, Store.get?, first.collection_write, second.collection_write,
        reordered.pushedTo_nodeClass]
    · intro edgeClass key
      exact ⟨(reordered.edges.filter _).map _, first.leavesOneOf_write store firstSize _ _,
        second.leavesOneOf_write store secondSize _ _⟩

/-- A function calls another at two places.  The calls stand at the caller, or in the opposite order
at the other function: either run leaves one edge, with the record of one of the two calls. -/
theorem relation_order_does_not_matter_moved :
    let call := Relation.between .calls "m.f" "m.g"
    let caller := Entity.named "f" .function
    let callee := Entity.named "g" .function
    let atCaller := EntityGraph.ofList
      [("m.f", { caller with relations := [call.atLine 3, call.atLine 5] }), ("m.g", callee)]
    let atCallee := EntityGraph.ofList
      [("m.f", caller), ("m.g", { callee with relations := [call.atLine 5, call.atLine 3] })]
    let first := atCaller.write Store.destination .empty 1
    let second := atCallee.write Store.destination .empty 100
    let key := edgeKey "m.f" "m.g" RelationType.calls.name
    let records := atCaller.edgeRecords .calls key
    (∀ qname, (atCaller.get? qname).map Entity.withoutRelations =
      (atCallee.get? qname).map Entity.withoutRelations) ∧
    atCaller.relations.Perm atCallee.relations ∧ first.1 = second.1 ∧
      first.2.state.keys "calls" = second.2.state.keys "calls" ∧ records.length = 2 ∧
      (∃ record ∈ records, first.2.state.get? "calls" key = .ok (some record)) ∧
      ∃ record ∈ records, second.2.state.get? "calls" key = .ok (some record) := by
  intro call caller callee atCaller atCallee first second key records
  have sameEntities : ∀ qname, (atCaller.get? qname).map Entity.withoutRelations =
      (atCallee.get? qname).map Entity.withoutRelations := by
    have same : atCaller.withoutRelations.toList = atCallee.withoutRelations.toList := by
      decide +kernel
    intro qname
    rw [← EntityGraph.get?_withoutRelations, ← EntityGraph.get?_withoutRelations]
    exact congrArg (List.lookup qname) same
  have sameRelations : atCaller.relations.Perm atCallee.relations := by decide +kernel
  obtain ⟨numbers, _, stores⟩ := relation_order_does_not_matter sameEntities sameRelations
    Store.destination .empty 1 Store.destination .empty 100
  obtain ⟨keys, _, edges⟩ := stores .empty
  obtain ⟨sameRecords, ⟨_, firstLeaves⟩, ⟨_, secondLeaves⟩⟩ := edges .calls key
  have two : records.length = 2 := by decide +kernel
  have someRecord : records ≠ [] := List.ne_nil_of_length_pos (by omega)
  have otherRecord : atCallee.edgeRecords .calls key ≠ [] := by
    intro noRecord
    rw [noRecord] at sameRecords
    exact someRecord sameRecords.eq_nil
  refine ⟨sameEntities, sameRelations, ?_, keys "calls", two, firstLeaves someRecord, ?_⟩
  · exact numbers _ _ Store.accepts trivial Store.accepts trivial
  · obtain ⟨record, member, stored⟩ := secondLeaves otherRecord
    exact ⟨record, sameRecords.mem_iff.mpr member, stored⟩

end CodeGraph
