import CodeGraph.Proofs.Ancestry
import CodeGraph.Proofs.Resolution

/-!
# Graphs that grow

More entities make parents longer to follow and fill in what was missing, so an assignment that was
a member may turn out to be local.  Nothing else changes class: `growth_keeps_edges` says what
becomes of the classes and of the edges of a graph in a larger one.
-/

set_option autoImplicit false

namespace CodeGraph

/-- Every entity of a graph is one of the other graph, under the same name. -/
def EntityGraph.Within (small grown : EntityGraph) : Prop :=
  ∀ qname entity, small.get? qname = some entity → grown.get? qname = some entity

variable {small grown : EntityGraph}

theorem EntityGraph.within_insert {graph : EntityGraph} {qname : String}
    (absent : graph.get? qname = none) (entity : Entity) :
    graph.Within (graph.insert qname entity) := by
  intro other present found
  have different : other ≠ qname := by
    rintro rfl
    rw [absent] at found
    cases found
  exact (KeyMap.get?_insert graph.entities qname other entity).trans
    ((if_neg different).trans found)

/-! ## Classes -/

theorem EntityGraph.LeadsTo.within (within : small.Within grown) {links : Nat} {qname : String}
    {outer : Entity} (leads : small.LeadsTo links qname outer) :
    grown.LeadsTo links qname outer := by
  induction leads with
  | own found => exact .own (within _ _ found)
  | above found inside _ inductionHypothesis =>
      exact .above (within _ _ found) inside inductionHypothesis

/-- What is local stays local: the ancestors that make it so are still there. -/
theorem Entity.isFunctionLocal_within (within : small.Within grown) {entity : Entity}
    (isLocal : entity.isFunctionLocal small = true) : entity.isFunctionLocal grown = true := by
  rw [isFunctionLocal_iff] at isLocal ⊢
  rcases isLocal with outermost | ⟨parent, inside, marked | ⟨links, outer, leads, assigns⟩⟩
  · exact Or.inl outermost
  · exact Or.inr ⟨parent, inside, Or.inl marked⟩
  · exact Or.inr ⟨parent, inside, Or.inr ⟨links, outer, leads.within within, assigns⟩⟩

theorem EntityKind.nodeClass?_of_isAssignment {kind : EntityKind}
    (assigns : kind.isAssignment = true) : kind.nodeClass? = some .members := by
  cases kind <;> first | rfl | cases assigns

/-- In a larger graph an entity has the same class, or it was a member and has none. -/
theorem Entity.nodeClass?_within (within : small.Within grown) (entity : Entity) :
    entity.nodeClass? grown = entity.nodeClass? small ∨
      entity.nodeClass? small = some .members ∧ entity.nodeClass? grown = none := by
  unfold nodeClass?
  cases entity.kind with
  | none => exact Or.inl rfl
  | some kind =>
      simp only [Option.bind_eq_bind, Option.bind_some]
      by_cases assigns : kind.isAssignment = true
      · rw [EntityKind.nodeClass?_of_isAssignment assigns, assigns, Option.bind_some,
          Option.bind_some, Bool.true_and, Bool.true_and]
        by_cases wasLocal : entity.isFunctionLocal small = true
        · exact Or.inl (by rw [wasLocal, isFunctionLocal_within within wasLocal])
        · by_cases isLocal : entity.isFunctionLocal grown = true
          · exact Or.inr ⟨if_neg wasLocal, if_pos isLocal⟩
          · exact Or.inl (by rw [if_neg wasLocal, if_neg isLocal])
      · rw [Bool.not_eq_true] at assigns
        simp [assigns]

theorem RoutingTable.resolve?_within (within : small.Within grown) {qname : String}
    {nodeClass : NodeClass}
    (routed : (RoutingTable.ofGraph small).resolve? qname = some nodeClass) :
    (RoutingTable.ofGraph grown).resolve? qname = some nodeClass ∨
      nodeClass = .members ∧ (RoutingTable.ofGraph grown).resolve? qname = none := by
  obtain ⟨entity, found, hasClass⟩ := RoutingTable.resolve?_ofGraph.mp routed
  have stillFound := within qname entity found
  rcases entity.nodeClass?_within within with same | ⟨wasMember, isNone⟩
  · exact Or.inl (RoutingTable.resolve?_ofGraph.mpr ⟨entity, stillFound, same.trans hasClass⟩)
  · refine Or.inr ⟨Option.some.inj (hasClass.symm.trans wasMember), ?_⟩
    rw [Option.eq_none_iff_forall_ne_some]
    intro other isRouted
    obtain ⟨again, foundAgain, hasOther⟩ := RoutingTable.resolve?_ofGraph.mp isRouted
    rw [Option.some.inj (foundAgain.symm.trans stillFound), isNone] at hasOther
    cases hasOther

theorem RoutingTable.resolve?_within_of_ne (within : small.Within grown) {qname : String}
    {nodeClass : NodeClass} (noMember : nodeClass ≠ .members)
    (routed : (RoutingTable.ofGraph small).resolve? qname = some nodeClass) :
    (RoutingTable.ofGraph grown).resolve? qname = some nodeClass := by
  rcases RoutingTable.resolve?_within within routed with same | ⟨isMember, _⟩
  · exact same
  · exact absurd isMember noMember

/-! ## Edges -/

theorem EdgeClass.target_ne_members {edgeClass : EdgeClass} {source target : NodeClass}
    (permitted : edgeClass.permits source target = true) : target ≠ .members := by
  rintro rfl
  cases edgeClass <;> simp [permits, targets] at permitted

/-- In the table of a graph the target of an edge is a routed name, or the initializer of a type. -/
theorem effectiveTarget_ofGraph_cases {graph : EntityGraph} {edgeClass : EdgeClass}
    {target : String} {endpoint : Endpoint} {nodeClass : NodeClass}
    (effective : effectiveTarget (.ofGraph graph) graph edgeClass target = .ok endpoint)
    (hasClass : endpoint.nodeClass? = some nodeClass) :
    (edgeClass = .calls ∧ endpoint = ⟨initializerOf target, some nodeClass⟩ ∧
      (RoutingTable.ofGraph graph).resolve? target = some .types ∧
      (RoutingTable.ofGraph graph).resolve? (initializerOf target) = some nodeClass) ∨
    (¬ (edgeClass = .calls ∧ nodeClass = .types) ∧ endpoint = ⟨target, some nodeClass⟩ ∧
      (RoutingTable.ofGraph graph).resolve? target = some nodeClass) := by
  unfold effectiveTarget at effective
  split at effective
  case h_1 isType =>
    split at effective
    case h_1 initializer =>
      cases effective
      cases hasClass
      exact Or.inl ⟨rfl, rfl, isType, initializer⟩
    case h_2 => cases effective
  case h_2 unrouted =>
    split at effective
    case isTrue isModule =>
      -- a module has its class in the table, so nothing is inferred
      rw [RoutingTable.resolve?_ofGraph_of_module isModule] at unrouted
      cases unrouted
    case isFalse =>
      cases effective
      cases hasClass
  case h_3 noType _ =>
    cases effective
    refine Or.inr ⟨?_, congrArg (Endpoint.mk target) hasClass, hasClass⟩
    rintro ⟨rfl, rfl⟩
    exact noType rfl hasClass

/-- The target of an edge stays what it is: the classes of a target and of an initializer are none
that a larger graph takes away. -/
theorem effectiveTarget_within (within : small.Within grown) {edgeClass : EdgeClass}
    {target : String} {endpoint : Endpoint} {nodeClass : NodeClass}
    (effective : effectiveTarget (.ofGraph small) small edgeClass target = .ok endpoint)
    (hasClass : endpoint.nodeClass? = some nodeClass) (noMember : nodeClass ≠ .members) :
    effectiveTarget (.ofGraph grown) grown edgeClass target = .ok endpoint := by
  rcases effectiveTarget_ofGraph_cases effective hasClass with
    ⟨rfl, rfl, isType, initializer⟩ | ⟨noType, rfl, routed⟩
  · have stillType := RoutingTable.resolve?_within_of_ne within (by decide) isType
    have stillRouted := RoutingTable.resolve?_within_of_ne within noMember initializer
    simp only [effectiveTarget, stillType, stillRouted]
  · have stillRouted := RoutingTable.resolve?_within_of_ne within noMember routed
    unfold effectiveTarget
    rw [stillRouted]
    split
    case h_1 isCall isType => exact absurd ⟨rfl, Option.some.inj isType⟩ noType
    case h_2 isNone => cases isNone
    case h_3 => rfl

/-- Of a relation that lacks nothing but the class of its source the source is unknown. -/
theorem Relation.resolve_unknownSource {relation : Relation} {table : RoutingTable}
    {graph : EntityGraph} {relationType : RelationType} {source target : String}
    {edgeClass : EdgeClass} {endpoint : Endpoint}
    (hasType : relation.relationType = some relationType)
    (hasSource : nonEmpty? relation.source = some source)
    (hasTarget : nonEmpty? relation.target = some target)
    (mapped : relationType.mapping = .edge edgeClass)
    (effective : effectiveTarget table graph edgeClass target = .ok endpoint)
    (unrouted : table.resolve? source = none) :
    relation.resolve table graph = .error .unknownSource := by
  have hasClass := RelationType.edgeClass_eq_ok_iff.mpr mapped
  simp only [resolve, hasType, hasSource, hasTarget, orElse, bind, Except.bind, hasClass,
    effective, unrouted]

/-- What a larger graph does to the nodes and edges of a graph.  Every entity keeps its class, or
was a member and has none; one without a class stays so.  Every edge stays as it is, unless it came
from a member that is one no longer: then its source is unknown. -/
theorem growth_keeps_edges (within : small.Within grown) :
    (∀ qname entity, small.get? qname = some entity →
      grown.get? qname = some entity ∧
      (∀ nodeClass, nodeClass ≠ .members → entity.nodeClass? small = some nodeClass →
        entity.nodeClass? grown = some nodeClass) ∧
      (entity.nodeClass? small = none → entity.nodeClass? grown = none) ∧
      (entity.nodeClass? small = some .members →
        entity.nodeClass? grown = some .members ∨ entity.nodeClass? grown = none)) ∧
    ∀ (relation : Relation) (edge : GraphEdge),
      relation.resolve (.ofGraph small) small = .ok edge →
      relation.resolve (.ofGraph grown) grown = .ok edge ∨
      (relation.resolve (.ofGraph grown) grown = .error .unknownSource ∧
        edge.sourceClass = .members ∧
        ∃ source, relation.source = some source ∧
          (RoutingTable.ofGraph small).resolve? source = some .members ∧
          (RoutingTable.ofGraph grown).resolve? source = none) := by
  constructor
  · intro qname entity found
    refine ⟨within qname entity found, ?_, ?_, ?_⟩ <;>
      rcases entity.nodeClass?_within within with same | ⟨wasMember, isNone⟩
    · intro nodeClass _ hasClass
      exact same.trans hasClass
    · intro nodeClass noMember hasClass
      exact absurd (Option.some.inj (hasClass.symm.trans wasMember)) noMember
    · exact fun hasNone => same.trans hasNone
    · exact fun _ => isNone
    · exact fun isMember => Or.inl (same.trans isMember)
    · exact fun _ => Or.inr isNone
  · intro relation edge resolved
    obtain ⟨relationType, source, target, endpoint, hasType, hasSource, hasTarget, mapped,
      effective, routed, hasClass, permitted, document⟩ := Relation.resolve_eq_ok_iff.mp resolved
    have stillEffective := effectiveTarget_within within effective hasClass
      (EdgeClass.target_ne_members permitted)
    rcases RoutingTable.resolve?_within within routed with stillRouted | ⟨isMember, unrouted⟩
    · exact Or.inl (Relation.resolve_eq_ok_iff.mpr ⟨relationType, source, target, endpoint,
        hasType, hasSource, hasTarget, mapped, stillEffective, stillRouted, hasClass, permitted,
        document⟩)
    · refine Or.inr ⟨Relation.resolve_unknownSource hasType hasSource hasTarget mapped
        stillEffective unrouted, isMember, source, ?_, isMember ▸ routed, unrouted⟩
      exact (Option.filter_eq_some_iff.mp hasSource).1

/-- The class around a member comes to stand below an assignment, so the member is local; a call
from a function of the same class stays. -/
theorem growth_keeps_edges_of_demoted :
    let small := EntityGraph.ofList
      [("m.x.C", (Entity.named "C" .classDef).inside "m.x"),
        ("m.x.C.f", (Entity.named "f" .function).inside "m.x.C"),
        ("m.x.C.y", (Entity.named "y" .assignment).inside "m.x.C")]
    let grown := small.insert "m.x" ((Entity.named "x" .assignment).inside "m")
    let call := Relation.between .calls "m.x.C.f" "m.x.C.f"
    let definition := Relation.between .functionDef "m.x.C.y" "m.x.C"
    small.Within grown ∧
      (∃ edge, call.resolve (.ofGraph small) small = .ok edge ∧
        call.resolve (.ofGraph grown) grown = .ok edge) ∧
      (definition.resolve (.ofGraph small) small).toOption.isSome = true ∧
      definition.resolve (.ofGraph grown) grown = .error .unknownSource := by
  intro small grown call definition
  have within : small.Within grown := EntityGraph.within_insert (by decide +kernel) _
  obtain ⟨_, edges⟩ := growth_keeps_edges within
  have callResolves : (call.resolve (.ofGraph small) small).toOption.isSome = true := by
    decide +kernel
  have callStays : (call.resolve (.ofGraph grown) grown).toOption.isSome = true := by
    decide +kernel
  have definitionResolves : (definition.resolve (.ofGraph small) small).toOption.isSome = true := by
    decide +kernel
  have definitionFails : (definition.resolve (.ofGraph grown) grown).toOption.isSome = false := by
    decide +kernel
  refine ⟨within, ?_, definitionResolves, ?_⟩
  · obtain ⟨edge, resolved⟩ := exists_ok_of_isSome callResolves
    rcases edges call edge resolved with stays | ⟨fails, _⟩
    · exact ⟨edge, resolved, stays⟩
    · rw [fails] at callStays
      cases callStays
  · obtain ⟨edge, resolved⟩ := exists_ok_of_isSome definitionResolves
    rcases edges definition edge resolved with stays | ⟨fails, _⟩
    · rw [stays] at definitionFails
      cases definitionFails
    · exact fails

end CodeGraph
