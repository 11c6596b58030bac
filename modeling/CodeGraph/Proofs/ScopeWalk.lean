import CodeGraph.Proofs.Ancestry

/-!
# The walk that looks for assignments

The scope of an assignment is found by a loop that goes up the parents and remembers the names it
has met.  `EntityGraph.walk` is the loop without a bound on its rounds: every round but the last one
takes a name of the graph that is new, so it ends whatever the parents are.
`scope_walk_finds_reachable_assignments` says what it finds and how often its body is entered.
-/

set_option autoImplicit false

namespace CodeGraph

/-- How a walk ended: how often the body of its loop was entered, and whether it found that an
assignment is local. -/
structure ScopeWalk where
  rounds : Nat
  isLocal : Bool
  deriving DecidableEq

def ScopeWalk.oneRoundMore (walk : ScopeWalk) : ScopeWalk :=
  { walk with rounds := walk.rounds + 1 }

namespace EntityGraph

variable {graph : EntityGraph}

/-! ## The loop -/

def unmet (graph : EntityGraph) (seen : List String) : List String :=
  graph.qnames.filter fun qname => !seen.contains qname

theorem length_unmet_nil (graph : EntityGraph) : (graph.unmet []).length = graph.size := by
  have counted : graph.size = graph.qnames.length := KeyMap.size_eq graph.entities
  rw [counted]
  simp [unmet]

theorem length_unmet_cons_lt {seen : List String} {qname : String} {entity : Entity}
    (new : qname ∉ seen) (found : graph.get? qname = some entity) :
    (graph.unmet (qname :: seen)).length < (graph.unmet seen).length := by
  have member : qname ∈ graph.unmet seen := by
    have known : qname ∈ graph.qnames := (LeadsTo.own found).mem_qnames
    simp [unmet, known, new]
  -- the new name is the only one that goes
  have fewer : graph.unmet (qname :: seen) =
      (graph.unmet seen).filter fun name => name ≠ qname := by
    rw [unmet, unmet, List.filter_filter]
    refine List.filter_congr fun name _ => ?_
    by_cases same : name = qname <;> simp [same]
  rw [fewer]
  exact List.length_filter_lt_length_iff_exists.mpr ⟨qname, member, by simp⟩

/-- Goes up from a name, past the names it has seen.  It stops at an assignment, at a name without
an entity and at one that it has seen. -/
def walk (graph : EntityGraph) (seen : List String) : Option String → ScopeWalk
  | none => ⟨0, false⟩
  | some qname =>
      if _again : qname ∈ seen then ⟨1, false⟩
      else
        match _found : graph.get? qname with
        | none => ⟨1, false⟩
        | some ancestor =>
            if ancestor.isAssignment then ⟨1, true⟩
            else (graph.walk (qname :: seen) ancestor.parent).oneRoundMore
termination_by (graph.unmet seen).length
decreasing_by exact length_unmet_cons_lt _again _found

/-- Every round but the last one meets a new name of the graph. -/
theorem rounds_walk_le (graph : EntityGraph) (seen : List String) (current : Option String) :
    (graph.walk seen current).rounds ≤ (graph.unmet seen).length + 1 := by
  fun_induction walk graph seen current with
  | case1 seen => exact Nat.zero_le _
  | case2 seen qname again => exact Nat.le_add_left 1 _
  | case3 seen qname new missing => exact Nat.le_add_left 1 _
  | case4 seen qname new ancestor found assigns => exact Nat.le_add_left 1 _
  | case5 seen qname new ancestor found other inductionHypothesis =>
      have fewer := length_unmet_cons_lt new found
      exact Nat.succ_le_succ (Nat.le_trans inductionHypothesis fewer)

/-- The loop finds what a walk with rounds enough meets. -/
theorem isLocal_walk (graph : EntityGraph) (seen : List String) (current : Option String)
    {rounds : Nat} (enough : (graph.unmet seen).length ≤ rounds) :
    (graph.walk seen current).isLocal =
      (graph.ancestorsFrom rounds seen current).any Entity.isAssignment := by
  fun_induction walk graph seen current generalizing rounds with
  | case1 seen => cases rounds <;> rfl
  | case2 seen qname again => rw [ancestorsFrom_of_seen again, List.any_nil]
  | case3 seen qname new missing => rw [ancestorsFrom_of_missing missing, List.any_nil]
  | case4 seen qname new ancestor found assigns =>
      have fewer := length_unmet_cons_lt new found
      obtain ⟨rounds, rfl⟩ := Nat.exists_eq_succ_of_ne_zero (show rounds ≠ 0 by omega)
      rw [ancestorsFrom_of_found new found, List.any_cons, assigns, Bool.true_or]
  | case5 seen qname new ancestor found other inductionHypothesis =>
      have fewer := length_unmet_cons_lt new found
      obtain ⟨rounds, rfl⟩ := Nat.exists_eq_succ_of_ne_zero (show rounds ≠ 0 by omega)
      rw [ancestorsFrom_of_found new found, List.any_cons, Bool.eq_false_iff.mpr other,
        Bool.false_or]
      exact inductionHypothesis (by omega)

end EntityGraph

/-! ## The scope of an assignment -/

/-- The walk that decides whether an assignment counts as local.  Without a parent, or with the
marker of an assignment in its name, there is nothing to look for. -/
def Entity.scopeWalk (entity : Entity) (graph : EntityGraph) : ScopeWalk :=
  match entity.parent with
  | none => ⟨0, true⟩
  | some parent =>
      if Text.occurs assignmentMarker parent.toList then ⟨0, true⟩
      else graph.walk [] (some parent)

theorem Entity.isLocal_scopeWalk (entity : Entity) (graph : EntityGraph) :
    (entity.scopeWalk graph).isLocal = entity.isFunctionLocal graph := by
  unfold scopeWalk isFunctionLocal
  cases entity.parent with
  | none => rfl
  | some parent =>
      by_cases marked : Text.occurs assignmentMarker parent.toList = true
      · simp [marked]
      · have enough := Nat.le_of_eq graph.length_unmet_nil
        simp [marked, EntityGraph.isLocal_walk graph [] (some parent) enough,
          EntityGraph.ancestors]

theorem Entity.rounds_scopeWalk_le (entity : Entity) (graph : EntityGraph) :
    (entity.scopeWalk graph).rounds ≤ graph.size + 1 := by
  unfold scopeWalk
  cases entity.parent with
  | none => exact Nat.zero_le _
  | some parent =>
      have bound := EntityGraph.rounds_walk_le graph [] (some parent)
      rw [graph.length_unmet_nil] at bound
      dsimp only
      split
      · exact Nat.zero_le _
      · exact bound

/-- The bound is met where the walk comes back to where it began: two classes are each the parent of
the other one. -/
theorem scopeWalk_meets_bound :
    let graph := EntityGraph.ofList
      [("a", (Entity.named "a" .classDef).inside "b"),
        ("b", (Entity.named "b" .classDef).inside "a")]
    let entity := (Entity.named "v" .assignment).inside "a"
    entity.scopeWalk graph = ⟨graph.size + 1, false⟩ := by
  decide +kernel

theorem Text.occurs_iff_infix {part text : List Char} :
    Text.occurs part text = true ↔ part <:+: text := by
  induction text with
  | nil => simp [occurs]
  | cons first rest inductionHypothesis =>
      rw [occurs, Bool.or_eq_true, List.isPrefixOf_iff_prefix, inductionHypothesis,
        List.infix_cons_iff]

theorem Text.occurs_iff {part text : String} :
    Text.occurs part.toList text.toList = true ↔
      ∃ before after, text = before ++ part ++ after := by
  rw [Text.occurs_iff_infix]
  constructor
  · rintro ⟨before, after, parts⟩
    refine ⟨.ofList before, .ofList after, String.toList_inj.mp ?_⟩
    rw [String.toList_append, String.toList_append, String.toList_ofList, String.toList_ofList,
      parts]
  · rintro ⟨before, after, rfl⟩
    refine ⟨before.toList, after.toList, ?_⟩
    rw [String.toList_append, String.toList_append]

theorem occurs_assignmentMarker_iff {qname : String} :
    Text.occurs assignmentMarker qname.toList = true ↔
      ∃ before after, qname = before ++ ".assignment." ++ after :=
  Text.occurs_iff

theorem Entity.isAssignment_iff {entity : Entity} :
    entity.isAssignment = true ↔
      entity.kind = some .assignment ∨ entity.kind = some .augmentedAssignment := by
  unfold isAssignment
  cases entity.kind with
  | none => simp
  | some kind => cases kind <;> simp [EntityKind.isAssignment]

/-- An assignment counts as local just when it has no parent, its parent's name has the marker of an
assignment in it, or parent links lead from there to an assignment, however many they are and even
if they form circles.  The loop that decides it enters its body at most once for each entity and
once more. -/
theorem scope_walk_finds_reachable_assignments (entity : Entity) (graph : EntityGraph) :
    (entity.isFunctionLocal graph = true ↔
      entity.parent = none ∨
      ∃ parent, entity.parent = some parent ∧
        ((∃ before after, parent = before ++ ".assignment." ++ after) ∨
          ∃ links outer, graph.LeadsTo links parent outer ∧
            (outer.kind = some .assignment ∨ outer.kind = some .augmentedAssignment))) ∧
    entity.isFunctionLocal graph = (entity.scopeWalk graph).isLocal ∧
    (entity.scopeWalk graph).rounds ≤ graph.size + 1 := by
  refine ⟨?_, (entity.isLocal_scopeWalk graph).symm, entity.rounds_scopeWalk_le graph⟩
  simp only [Entity.isFunctionLocal_iff, occurs_assignmentMarker_iff, Entity.isAssignment_iff]

end CodeGraph
