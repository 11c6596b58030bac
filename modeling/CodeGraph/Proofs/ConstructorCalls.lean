import CodeGraph.Proofs.Representable

/-!
# Calls of types

A call of a type is one of its initializer: the target is replaced before its class, the key and the
handle are taken of it, so nothing of the edge tells which of the two was called.  Two targets that
lead to the same endpoint cannot be told apart by any relation, `Relation.resolve_retarget`.
-/

set_option autoImplicit false

namespace CodeGraph

variable {relation : Relation} {table : RoutingTable} {graph : EntityGraph}

/-! ## Targets with the same endpoint -/

theorem initializerOf_ne_empty (type : String) : initializerOf type ≠ "" := by
  intro isEmpty
  have lengths := congrArg String.length isEmpty
  simp [initializerOf] at lengths

/-- Of a target that is not empty a relation only sees the endpoint that it leads to. -/
theorem Relation.resolve_retarget {first second : String} (firstFilled : first ≠ "")
    (secondFilled : second ≠ "")
    (same : ∀ edgeClass, relation.MapsTo edgeClass →
      effectiveTarget table graph edgeClass first = effectiveTarget table graph edgeClass second) :
    { relation with target := some first }.resolve table graph =
      { relation with target := some second }.resolve table graph := by
  have firstNamed : nonEmpty? (some first) = some first :=
    nonEmpty?_eq_some_iff.mpr ⟨rfl, firstFilled⟩
  have secondNamed : nonEmpty? (some second) = some second :=
    nonEmpty?_eq_some_iff.mpr ⟨rfl, secondFilled⟩
  simp only [resolve, firstNamed, secondNamed, bind, Except.bind]
  cases hasType : relation.relationType with
  | none => rfl
  | some relationType =>
      cases mapped : relationType.edgeClass with
      | error reason => simp only [orElse, mapped]
      | ok edgeClass =>
          have mapsTo : relation.MapsTo edgeClass :=
            ⟨relationType, hasType, RelationType.edgeClass_eq_ok_iff.mp mapped⟩
          simp only [orElse, mapped, same edgeClass mapsTo]
          rfl

theorem effectiveTarget_calls_of_ne_types {target : String} {nodeClass? : Option NodeClass}
    (routed : table.resolve? target = nodeClass?) (notType : nodeClass? ≠ some .types) :
    effectiveTarget table graph .calls target = .ok ⟨target, nodeClass?⟩ := by
  unfold effectiveTarget
  split
  case h_1 isType => exact absurd (routed.symm.trans isType) notType
  case h_2 isParent _ => cases isParent
  case h_3 => rw [routed]

theorem effectiveTarget_calls_of_types {type : String} {nodeClass : NodeClass}
    (isType : table.resolve? type = some .types)
    (initializer : table.resolve? (initializerOf type) = some nodeClass) :
    effectiveTarget table graph .calls type = .ok ⟨initializerOf type, some nodeClass⟩ := by
  simp only [effectiveTarget, isType, initializer]

/-! ## The edges of calls -/

theorem EdgeClass.permits_calls_iff {source target : NodeClass} :
    calls.permits source target = true ↔ source = .functions ∧ target = .functions := by
  cases source <;> cases target <;> decide

theorem Relation.functions_of_call {edge : GraphEdge}
    (resolved : relation.resolve table graph = .ok edge)
    (isCall : relation.relationType = some .calls) :
    edge.edgeClass = .calls ∧ edge.sourceClass = .functions ∧ edge.targetClass = .functions := by
  obtain ⟨relationType, _, _, joins, _⟩ := resolve_eq_ok_iff_joins.mp resolved
  cases isCall.symm.trans joins.names.hasType
  have isClass : EdgeClass.calls = edge.edgeClass := EdgeMapping.edge.inj joins.mapped
  have permitted := joins.permitted
  rw [← isClass] at permitted
  exact ⟨isClass.symm, EdgeClass.permits_calls_iff.mp permitted⟩

/-- A call of a type is an edge just when the caller and the initializer are functions, and then it
is the edge between these two. -/
theorem Relation.resolve_constructor_call {type : String}
    (isType : table.resolve? type = some .types) (typeFilled : type ≠ "")
    (source : Option String) (span : Option SourceSpan)
    (edge : GraphEdge) :
    let call : Relation := ⟨some .calls, source, some type, span⟩
    call.resolve table graph = .ok edge ↔
      ∃ caller, source = some caller ∧ caller ≠ "" ∧
        table.resolve? caller = some .functions ∧
        table.resolve? (initializerOf type) = some .functions ∧
        edge = ⟨.calls, .functions, .functions, {
          key := edgeKey caller (initializerOf type) "CALLS"
          source := nodeHandle .functions (storageKey caller)
          target := nodeHandle .functions (storageKey (initializerOf type))
          callSite := call.callSite .calls }⟩ := by
  intro call
  have toInitializer : redirected table .calls type = initializerOf type := if_pos ⟨rfl, isType⟩
  constructor
  · intro resolved
    obtain ⟨isCall, fromFunction, toFunction⟩ := functions_of_call resolved rfl
    obtain ⟨relationType, caller, target, joins, document⟩ := resolve_eq_ok_iff_joins.mp resolved
    cases joins.names.hasType
    cases joins.names.hasTarget
    obtain ⟨edgeClass, sourceClass, targetClass, stored⟩ := edge
    dsimp only at isCall fromFunction toFunction joins document
    subst isCall fromFunction toFunction
    have routed : table.resolve? (initializerOf type) = some .functions := by
      rcases routesTo_iff.mp joins.targetRouted with found | ⟨isParent, _⟩
      · exact toInitializer ▸ found
      · cases isParent
    refine ⟨caller, joins.names.hasSource, joins.names.sourceFilled, joins.sourceRouted, routed, ?_⟩
    rw [document, Relation.record, toInitializer]
    rfl
  · rintro ⟨caller, rfl, callerFilled, fromFunction, toFunction, rfl⟩
    have joins : call.Joins table graph .calls caller type .calls .functions .functions :=
      ⟨⟨rfl, rfl, callerFilled, rfl, typeFilled⟩, rfl, fromFunction,
        .routed (toInitializer ▸ toFunction), rfl⟩
    refine resolve_eq_ok_iff_joins.mpr ⟨.calls, caller, type, joins, ?_⟩
    rw [Relation.record, toInitializer]
    rfl

/-- A call of a type without an initializer is dropped for this reason, whoever calls. -/
theorem Relation.resolve_constructor_call_of_unrouted {caller type : String}
    (callerFilled : caller ≠ "") (typeFilled : type ≠ "")
    (isType : table.resolve? type = some .types)
    (unrouted : table.resolve? (initializerOf type) = none) (span : Option SourceSpan) :
    Relation.resolve ⟨some .calls, some caller, some type, span⟩ table graph =
      .error .missingInitializer := by
  let call : Relation := ⟨some .calls, some caller, some type, span⟩
  have names : call.Names .calls caller type := ⟨rfl, rfl, callerFilled, rfl, typeFilled⟩
  have applies : Unresolved.missingInitializer.Applies call table graph :=
    ⟨⟨.calls, rfl, rfl⟩, type, rfl, isType, unrouted⟩
  exact resolve_eq_error_iff.mpr ⟨applies, Unresolved.clearBelow_of_mapped names rfl⟩

/-- A call of a type is a call of its initializer.  Both have the same result where the initializer
is anything but a type again; without an initializer the call of the type is dropped for that
reason; and it has an edge just when caller and initializer are functions, the edge between these
two.  No call joins anything but functions. -/
theorem constructor_calls_are_initializer_calls (table : RoutingTable) (graph : EntityGraph) :
    (∀ (source : Option String) (span : Option SourceSpan) (type : String), type ≠ "" →
      table.resolve? type = some .types →
      let call (target : String) : Relation := ⟨some .calls, source, some target, span⟩
      (∀ nodeClass, table.resolve? (initializerOf type) = some nodeClass → nodeClass ≠ .types →
        (call type).resolve table graph = (call (initializerOf type)).resolve table graph) ∧
      (∀ caller, source = some caller → caller ≠ "" →
        table.resolve? (initializerOf type) = none →
          (call type).resolve table graph = .error .missingInitializer) ∧
      ∀ edge, (call type).resolve table graph = .ok edge ↔
        ∃ caller, source = some caller ∧ caller ≠ "" ∧
          table.resolve? caller = some .functions ∧
          table.resolve? (initializerOf type) = some .functions ∧
          edge = ⟨.calls, .functions, .functions, {
            key := edgeKey caller (initializerOf type) "CALLS"
            source := nodeHandle .functions (storageKey caller)
            target := nodeHandle .functions (storageKey (initializerOf type))
            callSite := (call type).callSite .calls }⟩) ∧
    ∀ (relation : Relation) (edge : GraphEdge), relation.relationType = some .calls →
      relation.resolve table graph = .ok edge →
        edge.sourceClass = .functions ∧ edge.targetClass = .functions := by
  constructor
  · intro source span type typeFilled isType call
    refine ⟨?_, ?_, Relation.resolve_constructor_call isType typeFilled source span⟩
    · -- the initializer is looked up once: were it a type itself, its own call would go one further
      intro nodeClass initializer notType
      have sameEndpoint : effectiveTarget table graph .calls type =
          effectiveTarget table graph .calls (initializerOf type) := by
        rw [effectiveTarget_calls_of_types isType initializer,
          effectiveTarget_calls_of_ne_types initializer (by simpa using notType)]
      change { call type with target := some type }.resolve table graph =
        { call type with target := some (initializerOf type) }.resolve table graph
      refine Relation.resolve_retarget typeFilled (initializerOf_ne_empty type) ?_
      rintro edgeClass ⟨relationType, hasType, mapped⟩
      cases hasType
      cases mapped
      exact sameEndpoint
    · rintro caller rfl callerFilled unrouted
      exact Relation.resolve_constructor_call_of_unrouted callerFilled typeFilled isType unrouted
        span
  · intro relation edge isCall resolved
    exact (Relation.functions_of_call resolved isCall).2

/-- A function calls a type that has an initializer, at a line: the edge is the one of the call of
the initializer. -/
theorem constructor_calls_are_initializer_calls_of_routed :
    let table := RoutingTable.ofList
      [("m.f", .functions), ("m.C", .types), ("m.C.__init__", .functions), ("m.D", .types)]
    let call (target : String) := (Relation.between .calls "m.f" target).atLine 7
    table.resolve? "m.C" = some .types ∧ table.resolve? (initializerOf "m.C") = some .functions ∧
      table.resolve? (initializerOf "m.D") = none ∧
      (call "m.C").resolve table .empty = (call "m.C.__init__").resolve table .empty ∧
      (∃ edge, (call "m.C").resolve table .empty = .ok edge) ∧
      (call "m.D").resolve table .empty = .error .missingInitializer := by
  intro table call
  have isType : table.resolve? "m.C" = some .types := by decide +kernel
  have alsoType : table.resolve? "m.D" = some .types := by decide +kernel
  have caller : table.resolve? "m.f" = some .functions := by decide +kernel
  have routed : table.resolve? (initializerOf "m.C") = some .functions := by decide +kernel
  have unrouted : table.resolve? (initializerOf "m.D") = none := by decide +kernel
  have ofC := (constructor_calls_are_initializer_calls table .empty).1 (some "m.f")
    (some ⟨some 7, none⟩) "m.C" (by decide) isType
  have ofD := (constructor_calls_are_initializer_calls table .empty).1 (some "m.f")
    (some ⟨some 7, none⟩) "m.D" (by decide) alsoType
  refine ⟨isType, routed, unrouted, ofC.1 .functions routed (by decide), ?_,
    ofD.2.1 "m.f" rfl (by decide) unrouted⟩
  exact ⟨_, (ofC.2.2 _).mpr ⟨"m.f", rfl, by decide, caller, routed, rfl⟩⟩

end CodeGraph
