import CodeGraph.Proofs.Representable

/-!
# Identities of edges

The key of an edge is that of a text: its source, its target and the type of the relation, with
colons between them.  Names may have colons too, so a part of the one may count as a part of the
other.  `edge_texts_agree_across_colons_only` says which edges share a text.
-/

set_option autoImplicit false

namespace CodeGraph

/-- What makes an edge the same one at two places. -/
structure EdgeIdentity where
  source : String
  target : String
  relationType : RelationType
  deriving DecidableEq

namespace EdgeIdentity

def text (identity : EdgeIdentity) : String :=
  identity.source ++ ":" ++ identity.target ++ ":" ++ identity.relationType.name

theorem storageKey_text (identity : EdgeIdentity) :
    storageKey identity.text =
      edgeKey identity.source identity.target identity.relationType.name := rfl

/-- Some of the one's target is read as the end of the other's source. -/
def Shifts (one other : EdgeIdentity) : Prop :=
  ∃ middle, other.source = one.source ++ ":" ++ middle ∧
    one.target = middle ++ ":" ++ other.target

end EdgeIdentity

/-- The identity of the edge of a relation, with the target that a call of a type leads to. -/
def Relation.identity? (relation : Relation) (table : RoutingTable) : Option EdgeIdentity := do
  let relationType ← relation.relationType
  let source ← relation.source
  let target ← relation.target
  match relationType.mapping with
  | .edge edgeClass => some ⟨source, redirected table edgeClass target, relationType⟩
  | _ => none

theorem Relation.identity_of_resolve {relation : Relation} {table : RoutingTable}
    {graph : EntityGraph} {edge : GraphEdge} (resolved : relation.resolve table graph = .ok edge) :
    ∃ identity, relation.identity? table = some identity ∧
      edge.document.key = storageKey identity.text := by
  obtain ⟨relationType, source, target, joins, document⟩ := resolve_eq_ok_iff_joins.mp resolved
  refine ⟨⟨source, redirected table edge.edgeClass target, relationType⟩, ?_, ?_⟩
  · simp [identity?, joins.names.hasType, joins.names.hasSource, joins.names.hasTarget,
      joins.mapped]
  · rw [document, EdgeIdentity.storageKey_text]
    rfl

theorem Relation.resolve_call_of_functions {table : RoutingTable} {graph : EntityGraph}
    {source target : String} (sourceFilled : source ≠ "") (targetFilled : target ≠ "")
    (fromFunction : table.resolve? source = some .functions)
    (toFunction : table.resolve? target = some .functions) :
    let call := Relation.between .calls source target
    (∃ edge, call.resolve table graph = .ok edge) ∧
      call.identity? table = some ⟨source, target, .calls⟩ := by
  intro call
  have stays : redirected table .calls target = target := if_neg (by simp [toFunction])
  have joins : call.Joins table graph .calls source target .calls .functions .functions :=
    ⟨⟨rfl, rfl, sourceFilled, rfl, targetFilled⟩, rfl, fromFunction,
      .routed (by rw [stays, toFunction]), rfl⟩
  have isIdentity : call.identity? table =
      some ⟨source, redirected table .calls target, .calls⟩ := rfl
  let document := call.record table .calls source target .calls .functions .functions
  refine ⟨⟨⟨.calls, .functions, .functions, document⟩, ?_⟩, by rw [isIdentity, stays]⟩
  exact resolve_eq_ok_iff_joins.mpr ⟨.calls, source, target, joins, rfl⟩

/-! ## Parts with a mark between them -/

section Marks

variable {α : Type} {mark : α} {first second later others : List α}

/-- Two lists that are cut at a mark are the same one if they are cut at the same mark, or if the
part between the two marks is on one side in the one and on the other side in the other. -/
theorem append_mark_eq_iff :
    first ++ mark :: later = second ++ mark :: others ↔
      first = second ∧ later = others ∨
      (∃ middle, second = first ++ mark :: middle ∧ later = middle ++ mark :: others) ∨
      ∃ middle, first = second ++ mark :: middle ∧ others = middle ++ mark :: later := by
  constructor
  · intro same
    rcases List.append_eq_append_iff.mp same with
      ⟨between, isSecond, isLater⟩ | ⟨between, isFirst, isOthers⟩
    · cases between with
      | nil => exact Or.inl ⟨by simp [isSecond], List.tail_eq_of_cons_eq isLater⟩
      | cons head middle =>
          obtain ⟨rfl, parts⟩ := List.cons.inj isLater
          exact Or.inr (Or.inl ⟨middle, isSecond, parts⟩)
    · cases between with
      | nil => exact Or.inl ⟨by simp [isFirst], (List.tail_eq_of_cons_eq isOthers).symm⟩
      | cons head middle =>
          obtain ⟨rfl, parts⟩ := List.cons.inj isOthers
          exact Or.inr (Or.inr ⟨middle, isFirst, parts⟩)
  · rintro (⟨rfl, rfl⟩ | ⟨middle, rfl, rfl⟩ | ⟨middle, rfl, rfl⟩) <;> simp

theorem append_mark_inj (noneLater : mark ∉ later) (noneOther : mark ∉ others)
    (same : first ++ mark :: later = second ++ mark :: others) :
    first = second ∧ later = others := by
  rcases append_mark_eq_iff.mp same with equal | ⟨middle, _, rfl⟩ | ⟨middle, _, rfl⟩
  · exact equal
  · exact absurd (by simp) noneLater
  · exact absurd (by simp) noneOther

end Marks

/-! ## Edges that share a text -/

theorem RelationType.name_inj {first second : RelationType} :
    first.name = second.name ↔ first = second := by
  cases first <;> cases second <;> decide

theorem RelationType.colon_not_mem_name (relationType : RelationType) :
    ':' ∉ relationType.name.toList := by
  cases relationType <;> decide

namespace EdgeIdentity

variable {one other : EdgeIdentity}

theorem toList_text (identity : EdgeIdentity) :
    identity.text.toList =
      (identity.source.toList ++ ':' :: identity.target.toList) ++
        ':' :: identity.relationType.name.toList := by
  simp [text]

theorem shifts_iff :
    one.Shifts other ↔
      ∃ middle, other.source.toList = one.source.toList ++ ':' :: middle ∧
        one.target.toList = middle ++ ':' :: other.target.toList := by
  simp only [Shifts, ← String.toList_inj]
  constructor
  · rintro ⟨middle, isSource, isTarget⟩
    exact ⟨middle.toList, by simp [isSource], by simp [isTarget]⟩
  · rintro ⟨middle, isSource, isTarget⟩
    exact ⟨.ofList middle, by simp [isSource], by simp [isTarget]⟩

/-- Two edges have the same text just when they are of the same type and have the same ends, or ends
that differ by where the colon between them is. -/
theorem text_eq_iff :
    one.text = other.text ↔
      one = other ∨
        one.relationType = other.relationType ∧ (one.Shifts other ∨ other.Shifts one) := by
  have sameEnds : one = other ↔ one.relationType = other.relationType ∧
      one.source.toList = other.source.toList ∧ one.target.toList = other.target.toList := by
    rw [String.toList_inj, String.toList_inj]
    cases one
    cases other
    constructor
    · rintro ⟨⟩
      exact ⟨rfl, rfl, rfl⟩
    · rintro ⟨⟨⟩, ⟨⟩, ⟨⟩⟩
      rfl
  -- no type has a colon in its name, so the last colon is the one before the type
  rw [← String.toList_inj, toList_text, toList_text, sameEnds, shifts_iff, shifts_iff,
    ← and_or_left, ← append_mark_eq_iff]
  constructor
  · intro same
    obtain ⟨ends, names⟩ := append_mark_inj one.relationType.colon_not_mem_name
      other.relationType.colon_not_mem_name same
    exact ⟨RelationType.name_inj.mp (String.toList_inj.mp names), ends⟩
  · rintro ⟨sameType, ends⟩
    rw [ends, sameType]

/-- The source of one edge has more colons, and the target of the other one. -/
theorem Shifts.count_lt (shifts : one.Shifts other) :
    one.source.toList.count ':' < other.source.toList.count ':' ∧
      other.target.toList.count ':' < one.target.toList.count ':' := by
  obtain ⟨middle, isSource, isTarget⟩ := shifts_iff.mp shifts
  rw [isSource, isTarget]
  simp only [List.count_append, List.count_cons_self]
  omega

end EdgeIdentity

/-- The text of an edge does not tell which edge it is: of two calls between names with a colon,
each the other way round, both are edges and have the same text. -/
theorem edge_texts_confuse_reversed_calls :
    ¬ ∀ (table : RoutingTable) (graph : EntityGraph) (first second : Relation)
        (firstEdge secondEdge : GraphEdge) (one other : EdgeIdentity),
      first.resolve table graph = .ok firstEdge → second.resolve table graph = .ok secondEdge →
        first.identity? table = some one → second.identity? table = some other →
          one.text = other.text → one = other := by
  intro textsTell
  let graph := EntityGraph.ofList [("a", .named "a" .function), ("a:a", .named "a" .function)]
  have inner : (RoutingTable.ofGraph graph).resolve? "a" = some .functions := by decide +kernel
  have outer : (RoutingTable.ofGraph graph).resolve? "a:a" = some .functions := by decide +kernel
  obtain ⟨⟨_, outward⟩, outwardIs⟩ :=
    Relation.resolve_call_of_functions (by decide) (by decide) inner outer
  obtain ⟨⟨_, inward⟩, inwardIs⟩ :=
    Relation.resolve_call_of_functions (by decide) (by decide) outer inner
  have same := textsTell (.ofGraph graph) graph _ _ _ _ _ _ outward inward outwardIs inwardIs
    (by decide)
  exact absurd same (by decide)

/-- When two edges of a resolver have the same text, and so the same key.  They are of the same
type, and either they have the same ends or a part between colons is the end of the source in the
one and the beginning of the target in the other.  So no two edges are confused whose sources, or
whose targets, have as many colons as each other. -/
theorem edge_texts_agree_across_colons_only {table : RoutingTable} {graph : EntityGraph}
    {first second : Relation} {firstEdge secondEdge : GraphEdge}
    (firstResolved : first.resolve table graph = .ok firstEdge)
    (secondResolved : second.resolve table graph = .ok secondEdge) :
    ∃ one other, first.identity? table = some one ∧ second.identity? table = some other ∧
      firstEdge.document.key = storageKey one.text ∧
      secondEdge.document.key = storageKey other.text ∧
      (one.text = other.text ↔
        one = other ∨
        one.relationType = other.relationType ∧ (one.Shifts other ∨ other.Shifts one)) ∧
      (one.source.toList.count ':' = other.source.toList.count ':' ∨
          one.target.toList.count ':' = other.target.toList.count ':' →
        one.text = other.text → one = other) := by
  obtain ⟨one, isOne, oneKey⟩ := Relation.identity_of_resolve firstResolved
  obtain ⟨other, isOther, otherKey⟩ := Relation.identity_of_resolve secondResolved
  refine ⟨one, other, isOne, isOther, oneKey, otherKey, EdgeIdentity.text_eq_iff, ?_⟩
  intro sameCount sameText
  rcases EdgeIdentity.text_eq_iff.mp sameText with same | ⟨_, shifts | shifts⟩
  · exact same
  · obtain ⟨sourceLess, targetLess⟩ := shifts.count_lt
    omega
  · obtain ⟨sourceLess, targetLess⟩ := shifts.count_lt
    omega

/-- Two functions call each other, and the name of the one is that of the other twice.  The two
edges share a key. -/
theorem edge_texts_agree_of_mutual_calls :
    let graph := EntityGraph.ofList [("a", .named "a" .function), ("a:a", .named "a" .function)]
    let table := RoutingTable.ofGraph graph
    ∃ outward inward, (Relation.between .calls "a" "a:a").resolve table graph = .ok outward ∧
      (Relation.between .calls "a:a" "a").resolve table graph = .ok inward ∧
      outward.document.key = inward.document.key := by
  intro graph table
  have inner : table.resolve? "a" = some .functions := by decide +kernel
  have outer : table.resolve? "a:a" = some .functions := by decide +kernel
  obtain ⟨⟨outward, outwardResolved⟩, outwardIs⟩ :=
    Relation.resolve_call_of_functions (by decide) (by decide) inner outer
  obtain ⟨⟨inward, inwardResolved⟩, inwardIs⟩ :=
    Relation.resolve_call_of_functions (by decide) (by decide) outer inner
  obtain ⟨one, other, isOne, isOther, oneKey, otherKey, sameText, _⟩ :=
    edge_texts_agree_across_colons_only outwardResolved inwardResolved
  cases isOne.symm.trans outwardIs
  cases isOther.symm.trans inwardIs
  refine ⟨outward, inward, outwardResolved, inwardResolved, ?_⟩
  rw [oneKey, otherKey, sameText.mpr (Or.inr ⟨rfl, Or.inl ⟨"a", by decide, by decide⟩⟩)]

end CodeGraph
