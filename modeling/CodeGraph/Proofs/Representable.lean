import CodeGraph.Proofs.Resolution

/-!
# Relations that have an edge

What an edge needs is said here without the steps of the resolver: `Relation.Joins` for the edge and
`Unresolved.Applies` for each of the reasons against it.  `resolver_emits_representable_relations`
compares the two with the resolver, for every routing table, also for one that does not fit the
graph.
-/

set_option autoImplicit false

namespace CodeGraph

variable {relation : Relation} {table : RoutingTable} {graph : EntityGraph}

/-! ## What an edge needs -/

/-- The relation has a type and two ends, of which no name is empty. -/
structure Relation.Names (relation : Relation) (relationType : RelationType)
    (source target : String) : Prop where
  hasType : relation.relationType = some relationType
  hasSource : relation.source = some source
  sourceFilled : source ≠ ""
  hasTarget : relation.target = some target
  targetFilled : target ≠ ""

def Relation.MapsTo (relation : Relation) (edgeClass : EdgeClass) : Prop :=
  ∃ relationType, relation.relationType = some relationType ∧
    relationType.mapping = .edge edgeClass

def redirected (table : RoutingTable) (edgeClass : EdgeClass) (target : String) : String :=
  if edgeClass = .calls ∧ table.resolve? target = some .types then initializerOf target else target

inductive RoutesTo (table : RoutingTable) (graph : EntityGraph) (edgeClass : EdgeClass)
    (target : String) : NodeClass → Prop where
  | routed {nodeClass : NodeClass}
      (found : table.resolve? (redirected table edgeClass target) = some nodeClass) :
      RoutesTo table graph edgeClass target nodeClass
  | inferred (isParent : edgeClass = .parent) (unrouted : table.resolve? target = none)
      (isModule : graph.kindOf? target = some .sourceModule) :
      RoutesTo table graph edgeClass target .modules

/-- The relation is an edge of a class between nodes of two classes. -/
structure Relation.Joins (relation : Relation) (table : RoutingTable) (graph : EntityGraph)
    (relationType : RelationType) (source target : String) (edgeClass : EdgeClass)
    (sourceClass targetClass : NodeClass) : Prop where
  names : relation.Names relationType source target
  mapped : relationType.mapping = .edge edgeClass
  sourceRouted : table.resolve? source = some sourceClass
  targetRouted : RoutesTo table graph edgeClass target targetClass
  permitted : edgeClass.permits sourceClass targetClass = true

def Relation.record (relation : Relation) (table : RoutingTable) (relationType : RelationType)
    (source target : String) (edgeClass : EdgeClass) (sourceClass targetClass : NodeClass) :
    EdgeDocument where
  key := edgeKey source (redirected table edgeClass target) relationType.name
  source := nodeHandle sourceClass (storageKey source)
  target := nodeHandle targetClass (storageKey (redirected table edgeClass target))
  callSite := relation.callSite edgeClass

/-! ## What speaks against an edge -/

namespace Unresolved

/-- The reason holds of a relation, whatever the other reasons do. -/
def Applies (relation : Relation) (table : RoutingTable) (graph : EntityGraph) :
    Unresolved → Prop
  | missingField =>
      relation.relationType = none ∨ relation.source = none ∨ relation.source = some "" ∨
        relation.target = none ∨ relation.target = some ""
  | inverseType =>
      ∃ relationType, relation.relationType = some relationType ∧ relationType.mapping = .inverse
  | unmappedType =>
      ∃ relationType, relation.relationType = some relationType ∧ relationType.mapping = .unmapped
  | missingInitializer =>
      relation.MapsTo .calls ∧ ∃ target, relation.target = some target ∧
        table.resolve? target = some .types ∧ table.resolve? (initializerOf target) = none
  | unknownSource => ∃ source, relation.source = some source ∧ table.resolve? source = none
  | unknownTarget =>
      ∃ edgeClass target, relation.MapsTo edgeClass ∧ relation.target = some target ∧
        ∀ nodeClass, ¬ RoutesTo table graph edgeClass target nodeClass
  | constraintViolation =>
      ∃ edgeClass source target sourceClass targetClass, relation.MapsTo edgeClass ∧
        relation.source = some source ∧ relation.target = some target ∧
        table.resolve? source = some sourceClass ∧
        RoutesTo table graph edgeClass target targetClass ∧
        edgeClass.permits sourceClass targetClass = false

/-- The place of a reason in the order in which they count.  No relation type is both an inverse one
and one without a class, so these two could change places. -/
def rank : Unresolved → Nat
  | missingField => 0
  | inverseType => 1
  | unmappedType => 2
  | missingInitializer => 3
  | unknownSource => 4
  | unknownTarget => 5
  | constraintViolation => 6

def ClearBelow (relation : Relation) (table : RoutingTable) (graph : EntityGraph) (place : Nat) :
    Prop :=
  ∀ reason : Unresolved, reason.rank < place → ¬ reason.Applies relation table graph

/-- The reason is the first one that applies. -/
def IsFirst (reason : Unresolved) (relation : Relation) (table : RoutingTable)
    (graph : EntityGraph) : Prop :=
  reason.Applies relation table graph ∧ ClearBelow relation table graph reason.rank

end Unresolved

/-! ## The fields of a relation -/

theorem nonEmpty?_eq_some_iff {text : Option String} {content : String} :
    nonEmpty? text = some content ↔ text = some content ∧ content ≠ "" := by
  simp [nonEmpty?, Option.filter_eq_some_iff]

theorem nonEmpty?_eq_none_iff {text : Option String} :
    nonEmpty? text = none ↔ text = none ∨ text = some "" := by
  cases text <;> simp [nonEmpty?]

theorem Relation.names_iff {relationType : RelationType} {source target : String} :
    relation.Names relationType source target ↔
      relation.relationType = some relationType ∧ nonEmpty? relation.source = some source ∧
        nonEmpty? relation.target = some target := by
  rw [nonEmpty?_eq_some_iff, nonEmpty?_eq_some_iff]
  constructor
  · intro names
    exact ⟨names.hasType, ⟨names.hasSource, names.sourceFilled⟩, names.hasTarget,
      names.targetFilled⟩
  · rintro ⟨hasType, ⟨hasSource, sourceFilled⟩, hasTarget, targetFilled⟩
    exact ⟨hasType, hasSource, sourceFilled, hasTarget, targetFilled⟩

theorem effectiveTarget_eq_error_iff {edgeClass : EdgeClass} {target : String}
    {reason : Unresolved} :
    effectiveTarget table graph edgeClass target = .error reason ↔
      reason = .missingInitializer ∧ edgeClass = .calls ∧ table.resolve? target = some .types ∧
        table.resolve? (initializerOf target) = none := by
  unfold effectiveTarget
  split
  case h_1 isType =>
    cases initializer : table.resolve? (initializerOf target) <;> simp [isType, eq_comm]
  case h_2 unrouted => split <;> simp [unrouted]
  case h_3 noType _ =>
    simp only [reduceCtorEq, false_iff, not_and]
    exact fun _ isCall isType => absurd isType (noType isCall)

theorem routesTo_iff {edgeClass : EdgeClass} {target : String} {nodeClass : NodeClass} :
    RoutesTo table graph edgeClass target nodeClass ↔
      table.resolve? (redirected table edgeClass target) = some nodeClass ∨
      edgeClass = .parent ∧ table.resolve? target = none ∧
        graph.kindOf? target = some .sourceModule ∧ nodeClass = .modules := by
  constructor
  · rintro (found | ⟨isParent, unrouted, isModule⟩)
    · exact Or.inl found
    · exact Or.inr ⟨isParent, unrouted, isModule, rfl⟩
  · rintro (found | ⟨isParent, unrouted, isModule, rfl⟩)
    · exact .routed found
    · exact .inferred isParent unrouted isModule

/-- The endpoint of an edge has the name and the class that it should have. -/
theorem effectiveTarget_eq_ok {edgeClass : EdgeClass} {target : String} {endpoint : Endpoint}
    (effective : effectiveTarget table graph edgeClass target = .ok endpoint) :
    endpoint.qname = redirected table edgeClass target ∧
      ∀ nodeClass, endpoint.nodeClass? = some nodeClass ↔
        RoutesTo table graph edgeClass target nodeClass := by
  unfold effectiveTarget at effective
  simp only [routesTo_iff]
  split at effective
  case h_1 isType =>
    have toInitializer : redirected table .calls target = initializerOf target :=
      if_pos ⟨rfl, isType⟩
    split at effective
    case h_1 initializer =>
      cases effective
      simp [toInitializer, initializer]
    case h_2 => cases effective
  case h_2 unrouted =>
    have stays : redirected table .parent target = target := if_neg (by simp)
    split at effective
    case isTrue isModule =>
      cases effective
      simp [stays, unrouted, isModule, eq_comm]
    case isFalse notModule =>
      cases effective
      simp [stays, unrouted, notModule]
  case h_3 noType notInferred =>
    cases effective
    have stays : redirected table _ target = target := if_neg fun both => noType both.1 both.2
    refine ⟨stays.symm, fun nodeClass => ?_⟩
    rw [stays]
    constructor
    · exact Or.inl
    · rintro (found | ⟨isParent, unrouted, _⟩)
      · exact found
      · exact (notInferred isParent unrouted).elim

/-! ## The edge of a relation -/

/-- A relation that joins two nodes has an edge, and no other one has. -/
theorem Relation.resolve_eq_ok_iff_joins {edge : GraphEdge} :
    relation.resolve table graph = .ok edge ↔
      ∃ relationType source target,
        relation.Joins table graph relationType source target edge.edgeClass edge.sourceClass
          edge.targetClass ∧
        edge.document = relation.record table relationType source target edge.edgeClass
          edge.sourceClass edge.targetClass := by
  rw [resolve_eq_ok_iff]
  constructor
  · rintro ⟨relationType, source, target, endpoint, hasType, hasSource, hasTarget, mapped,
      effective, routed, hasClass, permitted, document⟩
    obtain ⟨isName, isClass⟩ := effectiveTarget_eq_ok effective
    rw [isName] at document
    exact ⟨relationType, source, target,
      ⟨names_iff.mpr ⟨hasType, hasSource, hasTarget⟩, mapped, routed,
        (isClass _).mp hasClass, permitted⟩, document⟩
  · rintro ⟨relationType, source, target, joins, document⟩
    obtain ⟨hasType, hasSource, hasTarget⟩ := names_iff.mp joins.names
    cases effective : effectiveTarget table graph edge.edgeClass target with
    | error reason =>
        -- a call without an initializer leads to no class
        obtain ⟨_, isCall, isType, unrouted⟩ := effectiveTarget_eq_error_iff.mp effective
        have toInitializer : redirected table edge.edgeClass target = initializerOf target :=
          if_pos ⟨isCall, isType⟩
        rcases routesTo_iff.mp joins.targetRouted with found | ⟨isParent, _⟩
        · rw [toInitializer, unrouted] at found
          cases found
        · rw [isCall] at isParent
          cases isParent
    | ok endpoint =>
        obtain ⟨isName, isClass⟩ := effectiveTarget_eq_ok effective
        rw [Relation.record, ← isName] at document
        exact ⟨relationType, source, target, endpoint, hasType, hasSource, hasTarget,
          joins.mapped, effective, joins.sourceRouted, (isClass _).mpr joins.targetRouted,
          joins.permitted, document⟩

/-! ## The first reason -/

namespace Unresolved

theorem clearBelow_zero : ClearBelow relation table graph 0 :=
  fun _ low => absurd low (Nat.not_lt_zero _)

theorem ClearBelow.next {place : Nat} (clear : ClearBelow relation table graph place)
    (none : ∀ reason : Unresolved, reason.rank = place → ¬ reason.Applies relation table graph) :
    ClearBelow relation table graph (place + 1) := by
  intro reason low
  rcases Nat.lt_succ_iff_lt_or_eq.mp low with before | here
  · exact clear reason before
  · exact none reason here

variable {relationType : RelationType} {source target : String} {edgeClass : EdgeClass}

theorem clearBelow_of_names (names : relation.Names relationType source target) :
    ClearBelow relation table graph 1 := by
  refine clearBelow_zero.next fun reason here => ?_
  cases reason <;> cases here
  simp [Applies, names.hasType, names.hasSource, names.hasTarget, names.sourceFilled,
    names.targetFilled]

theorem clearBelow_of_mapped (names : relation.Names relationType source target)
    (mapped : relationType.mapping = .edge edgeClass) : ClearBelow relation table graph 3 := by
  refine ((clearBelow_of_names names).next fun reason here => ?_).next fun reason here => ?_ <;>
    cases reason <;> cases here <;> simp [Applies, names.hasType, mapped]

theorem clearBelow_of_effective (names : relation.Names relationType source target)
    (mapped : relationType.mapping = .edge edgeClass) {endpoint : Endpoint}
    (effective : effectiveTarget table graph edgeClass target = .ok endpoint) :
    ClearBelow relation table graph 4 := by
  refine (clearBelow_of_mapped names mapped).next fun reason here => ?_
  cases reason <;> cases here
  rintro ⟨⟨otherType, hasType, isCall⟩, other, hasTarget, isType, unrouted⟩
  cases hasType.symm.trans names.hasType
  cases hasTarget.symm.trans names.hasTarget
  cases mapped.symm.trans isCall
  cases effective.symm.trans (effectiveTarget_eq_error_iff.mpr ⟨rfl, rfl, isType, unrouted⟩)

theorem clearBelow_of_source (names : relation.Names relationType source target)
    (mapped : relationType.mapping = .edge edgeClass) {endpoint : Endpoint}
    (effective : effectiveTarget table graph edgeClass target = .ok endpoint)
    {sourceClass : NodeClass} (routed : table.resolve? source = some sourceClass) :
    ClearBelow relation table graph 5 := by
  refine (clearBelow_of_effective names mapped effective).next fun reason here => ?_
  cases reason <;> cases here
  rintro ⟨other, hasSource, unrouted⟩
  cases hasSource.symm.trans names.hasSource
  cases routed.symm.trans unrouted

theorem clearBelow_of_target (names : relation.Names relationType source target)
    (mapped : relationType.mapping = .edge edgeClass) {endpoint : Endpoint}
    (effective : effectiveTarget table graph edgeClass target = .ok endpoint)
    {sourceClass targetClass : NodeClass} (routed : table.resolve? source = some sourceClass)
    (hasClass : endpoint.nodeClass? = some targetClass) : ClearBelow relation table graph 6 := by
  refine (clearBelow_of_source names mapped effective routed).next fun reason here => ?_
  cases reason <;> cases here
  rintro ⟨otherClass, other, ⟨otherType, hasType, otherMapped⟩, hasTarget, unrouted⟩
  cases hasType.symm.trans names.hasType
  cases hasTarget.symm.trans names.hasTarget
  cases mapped.symm.trans otherMapped
  exact unrouted targetClass (((effectiveTarget_eq_ok effective).2 targetClass).mp hasClass)

theorem rank_inj {first second : Unresolved} : first.rank = second.rank ↔ first = second := by
  cases first <;> cases second <;> decide

theorem IsFirst.unique {first second : Unresolved} (isFirst : first.IsFirst relation table graph)
    (isSecond : second.IsFirst relation table graph) : first = second := by
  rcases Nat.lt_trichotomy first.rank second.rank with before | same | behind
  · exact absurd isFirst.1 (isSecond.2 first before)
  · exact rank_inj.mp same
  · exact absurd isSecond.1 (isFirst.2 second behind)

end Unresolved

/-- The resolver stops at the first reason. -/
theorem Relation.isFirst_of_resolve {reason : Unresolved}
    (failed : relation.resolve table graph = .error reason) :
    reason.IsFirst relation table graph := by
  -- one case for each question of the resolver, in its order
  simp only [resolve, bind_eq_error_iff, orElse_eq_error_iff, orElse_eq_ok_iff,
    nonEmpty?_eq_none_iff, RelationType.edgeClass_eq_error_iff,
    RelationType.edgeClass_eq_ok_iff] at failed
  rcases failed with ⟨noType, rfl⟩ | ⟨relationType, hasType, failed⟩
  · exact ⟨Or.inl noType, Unresolved.clearBelow_zero⟩
  rcases failed with ⟨noSource, rfl⟩ | ⟨source, hasSource, failed⟩
  · exact ⟨Or.inr (or_assoc.mp (Or.inl noSource)), Unresolved.clearBelow_zero⟩
  rcases failed with ⟨noTarget, rfl⟩ | ⟨target, hasTarget, failed⟩
  · exact ⟨Or.inr (Or.inr (Or.inr noTarget)), Unresolved.clearBelow_zero⟩
  have names := names_iff.mpr ⟨hasType, hasSource, hasTarget⟩
  rcases failed with (⟨isInverse, rfl⟩ | ⟨isUnmapped, rfl⟩) | ⟨edgeClass, mapped, failed⟩
  · exact ⟨⟨relationType, hasType, isInverse⟩, Unresolved.clearBelow_of_names names⟩
  · refine ⟨⟨relationType, hasType, isUnmapped⟩,
      (Unresolved.clearBelow_of_names names).next fun reason here => ?_⟩
    cases reason <;> cases here
    simp [Unresolved.Applies, hasType, isUnmapped]
  rcases failed with noInitializer | ⟨endpoint, effective, failed⟩
  · obtain ⟨rfl, rfl, isType, unrouted⟩ := effectiveTarget_eq_error_iff.mp noInitializer
    exact ⟨⟨⟨relationType, hasType, mapped⟩, target, names.hasTarget, isType, unrouted⟩,
      Unresolved.clearBelow_of_mapped names mapped⟩
  have isClass := (effectiveTarget_eq_ok effective).2
  rcases failed with ⟨unrouted, rfl⟩ | ⟨sourceClass, routed, failed⟩
  · exact ⟨⟨source, names.hasSource, unrouted⟩,
      Unresolved.clearBelow_of_effective names mapped effective⟩
  rcases failed with ⟨noClass, rfl⟩ | ⟨targetClass, hasClass, failed⟩
  · refine ⟨⟨edgeClass, target, ⟨relationType, hasType, mapped⟩, names.hasTarget, ?_⟩,
      Unresolved.clearBelow_of_source names mapped effective routed⟩
    intro nodeClass routes
    rw [← isClass, noClass] at routes
    cases routes
  by_cases permitted : edgeClass.permits sourceClass targetClass
  · rw [permitted] at failed
    cases failed
  · rw [Bool.not_eq_true] at permitted
    rw [permitted] at failed
    cases failed
    exact ⟨⟨edgeClass, source, target, sourceClass, targetClass, ⟨relationType, hasType, mapped⟩,
      names.hasSource, names.hasTarget, routed, (isClass targetClass).mp hasClass, permitted⟩,
      Unresolved.clearBelow_of_target names mapped effective routed hasClass⟩

theorem Relation.not_applies_of_resolve {edge : GraphEdge}
    (resolved : relation.resolve table graph = .ok edge) (reason : Unresolved) :
    ¬ reason.Applies relation table graph := by
  obtain ⟨relationType, source, target, endpoint, hasType, hasSource, hasTarget, mapped,
    effective, routed, hasClass, permitted, _⟩ := resolve_eq_ok_iff.mp resolved
  have names := names_iff.mpr ⟨hasType, hasSource, hasTarget⟩
  have clear : Unresolved.ClearBelow relation table graph 7 := by
    refine (Unresolved.clearBelow_of_target names mapped effective routed hasClass).next
      fun reason here => ?_
    cases reason <;> cases here
    rintro ⟨otherClass, other, otherTarget, otherSource, otherEnd, ⟨otherType, isType, otherMapped⟩,
      isSource, isTarget, otherRouted, routes, violated⟩
    cases isType.symm.trans names.hasType
    cases isSource.symm.trans names.hasSource
    cases isTarget.symm.trans names.hasTarget
    cases mapped.symm.trans otherMapped
    cases routed.symm.trans otherRouted
    cases hasClass.symm.trans (((effectiveTarget_eq_ok effective).2 otherEnd).mpr routes)
    rw [permitted] at violated
    cases violated
  exact clear reason (by cases reason <;> decide)

theorem Relation.resolve_eq_error_iff {reason : Unresolved} :
    relation.resolve table graph = .error reason ↔ reason.IsFirst relation table graph := by
  constructor
  · exact isFirst_of_resolve
  · intro isFirst
    cases resolved : relation.resolve table graph with
    | ok edge => exact absurd isFirst.1 (not_applies_of_resolve resolved reason)
    | error other => rw [(isFirst_of_resolve resolved).unique isFirst]

/-! ## The place of a relation -/

/-- A call from nowhere of a type without an initializer: the missing initializer comes first. -/
example :
    (Relation.between .calls "m.f" "m.C").resolve (.ofList [("m.C", .types)]) .empty =
      .error .missingInitializer := by
  rfl

end CodeGraph
