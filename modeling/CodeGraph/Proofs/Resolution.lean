import CodeGraph.Proofs.KeyMap
import CodeGraph.Proofs.Results
import CodeGraph.Resolution

/-!
# Edges of relations

`Relation.resolve_eq_ok_iff` says when a relation has an edge and which one.  The table of a graph
holds every entity that has a class, so there both ends of an edge are entities of the graph: a
module is never missing, and the parent of a definition need not be inferred.
-/

set_option autoImplicit false

namespace CodeGraph

/-! ## The table of a graph -/

def EntityGraph.routes (graph : EntityGraph) : List (String × NodeClass) :=
  graph.toList.filterMap fun entry =>
    (entry.2.nodeClass? graph).map fun nodeClass => (entry.1, nodeClass)

theorem EntityGraph.nodup_routes (graph : EntityGraph) : (graph.routes.map Prod.fst).Nodup := by
  rw [routes, List.map_filterMap]
  apply List.Pairwise.filterMap _ _ graph.entities.ordered
  intro first second less firstName firstHas secondName secondHas
  have firstIs : first.1 = firstName := by
    simp only [Option.map_map, Option.map_eq_some_iff] at firstHas
    exact firstHas.choose_spec.2
  have secondIs : second.1 = secondName := by
    simp only [Option.map_map, Option.map_eq_some_iff] at secondHas
    exact secondHas.choose_spec.2
  rw [← firstIs, ← secondIs]
  exact KeyMap.ne_of_lt less

theorem RoutingTable.resolve?_ofGraph {graph : EntityGraph} {qname : String}
    {nodeClass : NodeClass} :
    (RoutingTable.ofGraph graph).resolve? qname = some nodeClass ↔
      ∃ entity, graph.get? qname = some entity ∧ entity.nodeClass? graph = some nodeClass := by
  refine (KeyMap.get?_ofList_eq_some_iff graph.nodup_routes).trans ?_
  simp only [EntityGraph.routes, List.mem_filterMap, Option.map_eq_some_iff, Prod.mk.injEq]
  constructor
  · rintro ⟨⟨name, entity⟩, member, _, hasClass, rfl, rfl⟩
    exact ⟨entity, KeyMap.get?_eq_some_iff.mpr member, hasClass⟩
  · rintro ⟨entity, found, hasClass⟩
    exact ⟨(qname, entity), KeyMap.get?_eq_some_iff.mp found, nodeClass, hasClass, rfl, rfl⟩

theorem RoutingTable.resolve?_ofGraph_of_module {graph : EntityGraph} {qname : String}
    (isModule : graph.kindOf? qname = some .sourceModule) :
    (RoutingTable.ofGraph graph).resolve? qname = some .modules := by
  obtain ⟨entity, found, kind⟩ := Option.bind_eq_some_iff.mp isModule
  refine RoutingTable.resolve?_ofGraph.mpr ⟨entity, found, ?_⟩
  simp [Entity.nodeClass?, kind, EntityKind.nodeClass?, EntityKind.isAssignment]

/-! ## A relation that has an edge -/

theorem orElse_eq_ok_iff {α : Type} {reason : Unresolved} {value? : Option α} {value : α} :
    orElse reason value? = .ok value ↔ value? = some value := by
  cases value? <;> simp [orElse]

theorem orElse_eq_error_iff {α : Type} {reason fault : Unresolved} {value? : Option α} :
    orElse reason value? = .error fault ↔ value? = none ∧ reason = fault := by
  cases value? <;> simp [orElse]

theorem RelationType.edgeClass_eq_ok_iff {relationType : RelationType} {edgeClass : EdgeClass} :
    relationType.edgeClass = .ok edgeClass ↔ relationType.mapping = .edge edgeClass := by
  cases relationType <;> simp [RelationType.edgeClass, RelationType.mapping]

theorem RelationType.edgeClass_eq_error_iff {relationType : RelationType} {reason : Unresolved} :
    relationType.edgeClass = .error reason ↔
      relationType.mapping = .inverse ∧ reason = .inverseType ∨
        relationType.mapping = .unmapped ∧ reason = .unmappedType := by
  cases relationType <;> simp [RelationType.edgeClass, RelationType.mapping, eq_comm]

/-- When a relation has an edge, and which one. -/
theorem Relation.resolve_eq_ok_iff {relation : Relation} {table : RoutingTable}
    {graph : EntityGraph} {edge : GraphEdge} :
    relation.resolve table graph = .ok edge ↔
      ∃ relationType source target endpoint,
        relation.relationType = some relationType ∧
        nonEmpty? relation.source = some source ∧
        nonEmpty? relation.target = some target ∧
        relationType.mapping = .edge edge.edgeClass ∧
        effectiveTarget table graph edge.edgeClass target = .ok endpoint ∧
        table.resolve? source = some edge.sourceClass ∧
        endpoint.nodeClass? = some edge.targetClass ∧
        edge.edgeClass.permits edge.sourceClass edge.targetClass ∧
        edge.document =
          { key := edgeKey source endpoint.qname relationType.name
            source := nodeHandle edge.sourceClass (storageKey source)
            target := nodeHandle edge.targetClass (storageKey endpoint.qname)
            callSite := relation.callSite edge.edgeClass } := by
  simp only [Relation.resolve, bind_eq_ok_iff, orElse_eq_ok_iff, RelationType.edgeClass_eq_ok_iff]
  constructor
  · rintro ⟨relationType, hasType, source, hasSource, target, hasTarget, edgeClass, mapped,
      endpoint, effective, sourceClass, routed, targetClass, hasClass, checked⟩
    by_cases permitted : edgeClass.permits sourceClass targetClass
    · rw [permitted] at checked
      cases checked
      exact ⟨relationType, source, target, endpoint, hasType, hasSource, hasTarget, mapped,
        effective, routed, hasClass, permitted, rfl⟩
    · rw [Bool.not_eq_true] at permitted
      rw [permitted] at checked
      cases checked
  · rintro ⟨relationType, source, target, endpoint, hasType, hasSource, hasTarget, mapped,
      effective, routed, hasClass, permitted, document⟩
    refine ⟨relationType, hasType, source, hasSource, target, hasTarget, edge.edgeClass, mapped,
      endpoint, effective, edge.sourceClass, routed, edge.targetClass, hasClass, ?_⟩
    rw [permitted, ← document]
    rfl

/-- The target of an edge has its class from the table, unless it is a module that the table does
not hold. -/
theorem effectiveTarget_cases {table : RoutingTable} {graph : EntityGraph}
    {edgeClass : EdgeClass} {target : String} {endpoint : Endpoint}
    (effective : effectiveTarget table graph edgeClass target = .ok endpoint) :
    endpoint.nodeClass? = table.resolve? endpoint.qname ∨
      edgeClass = .parent ∧ table.resolve? target = none ∧
        graph.kindOf? target = some .sourceModule ∧ endpoint = ⟨target, some .modules⟩ := by
  unfold effectiveTarget at effective
  split at effective
  case h_1 =>
    split at effective
    case h_1 initializer =>
      cases effective
      exact Or.inl initializer.symm
    case h_2 => cases effective
  case h_2 unrouted =>
    split at effective
    case isTrue isModule =>
      cases effective
      exact Or.inr ⟨rfl, unrouted, isModule, rfl⟩
    case isFalse =>
      cases effective
      exact Or.inl unrouted.symm
  case h_3 =>
    cases effective
    exact Or.inl rfl

/-- In the table of the graph itself both ends of an edge have their classes, that of an inferred
parent too. -/
theorem Relation.resolve_ofGraph {relation : Relation} {graph : EntityGraph} {edge : GraphEdge}
    (resolved : relation.resolve (.ofGraph graph) graph = .ok edge) :
    ∃ source target,
      (RoutingTable.ofGraph graph).resolve? source = some edge.sourceClass ∧
      (RoutingTable.ofGraph graph).resolve? target = some edge.targetClass ∧
      edge.document.source = nodeHandle edge.sourceClass (storageKey source) ∧
      edge.document.target = nodeHandle edge.targetClass (storageKey target) := by
  obtain ⟨_, source, target, endpoint, _, _, _, _, effective, routed, hasClass, _, document⟩ :=
    Relation.resolve_eq_ok_iff.mp resolved
  refine ⟨source, endpoint.qname, routed, ?_, by rw [document], by rw [document]⟩
  rcases effectiveTarget_cases effective with fromTable | ⟨_, unrouted, isModule, _⟩
  · rw [← fromTable, hasClass]
  · -- the parent would be inferred, but a module has its class in the table
    rw [RoutingTable.resolve?_ofGraph_of_module isModule] at unrouted
    cases unrouted

end CodeGraph
