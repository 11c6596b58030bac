import CodeGraph.Classification
import CodeGraph.Proofs.KeyMap

/-!
# Ancestors

The walk along the parents of a name finds every entity that parent links lead to, and no other:
`EntityGraph.mem_ancestors_iff`.  It stops at a name that it has met before, so the links may form
circles, and as many rounds as the graph has entities are enough.
-/

set_option autoImplicit false

namespace CodeGraph

variable {graph : EntityGraph}

/-- So many parent links lead from a name to an entity.  Every name on the way has an entity. -/
inductive EntityGraph.LeadsTo (graph : EntityGraph) : Nat → String → Entity → Prop where
  | own {qname : String} {entity : Entity} (found : graph.get? qname = some entity) :
      graph.LeadsTo 0 qname entity
  | above {links : Nat} {qname parent : String} {entity outer : Entity}
      (found : graph.get? qname = some entity) (inside : entity.parent = some parent)
      (leads : graph.LeadsTo links parent outer) : graph.LeadsTo (links + 1) qname outer

namespace EntityGraph

theorem LeadsTo.mem_qnames {links : Nat} {qname : String} {outer : Entity}
    (leads : graph.LeadsTo links qname outer) : qname ∈ graph.qnames := by
  apply KeyMap.mem_keys.mpr
  cases leads with
  | own found => exact Option.isSome_of_mem found
  | above found => exact Option.isSome_of_mem found

/-! ## One round of the walk -/

theorem ancestorsFrom_of_seen {seen : List String} {qname : String} (again : qname ∈ seen)
    (rounds : Nat) : graph.ancestorsFrom rounds seen (some qname) = [] := by
  cases rounds with
  | zero => rfl
  | succ rounds => rw [ancestorsFrom, if_pos (List.contains_iff_mem.mpr again)]

theorem ancestorsFrom_of_found {seen : List String} {qname : String} {entity : Entity}
    (new : qname ∉ seen) (found : graph.get? qname = some entity) (rounds : Nat) :
    graph.ancestorsFrom (rounds + 1) seen (some qname) =
      entity :: graph.ancestorsFrom rounds (qname :: seen) entity.parent := by
  have notSeen : ¬ seen.contains qname = true := fun again => new (List.contains_iff_mem.mp again)
  rw [ancestorsFrom, if_neg notSeen, found]

theorem ancestorsFrom_of_missing {qname : String} (missing : graph.get? qname = none)
    (rounds : Nat) (seen : List String) : graph.ancestorsFrom rounds seen (some qname) = [] := by
  cases rounds with
  | zero => rfl
  | succ rounds => rw [ancestorsFrom, missing, ite_self]

/-! ## The whole walk -/

theorem leadsTo_of_mem_ancestorsFrom {rounds : Nat} {seen : List String} {qname : String}
    {outer : Entity} (member : outer ∈ graph.ancestorsFrom rounds seen (some qname)) :
    ∃ links, graph.LeadsTo links qname outer := by
  induction rounds generalizing seen qname with
  | zero => cases member
  | succ rounds inductionHypothesis =>
      by_cases again : qname ∈ seen
      · rw [ancestorsFrom_of_seen again] at member
        cases member
      · cases found : graph.get? qname with
        | none =>
            rw [ancestorsFrom_of_missing found] at member
            cases member
        | some entity =>
            rw [ancestorsFrom_of_found again found] at member
            rcases List.mem_cons.mp member with rfl | isAbove
            · exact ⟨0, .own found⟩
            · cases inside : entity.parent with
              | none =>
                  rw [inside] at isAbove
                  cases rounds <;> cases isAbove
              | some parent =>
                  rw [inside] at isAbove
                  obtain ⟨links, leads⟩ := inductionHypothesis isAbove
                  exact ⟨links + 1, .above found inside leads⟩

/-- What a name leads to is met, unless fewer links lead there from a name that was met before. -/
theorem LeadsTo.mem_ancestorsFrom {links rounds : Nat} {seen : List String} {qname : String}
    {outer : Entity} (leads : graph.LeadsTo links qname outer) (distinct : seen.Nodup)
    (known : ∀ name ∈ seen, name ∈ graph.qnames) (enough : graph.size ≤ rounds + seen.length) :
    outer ∈ graph.ancestorsFrom rounds seen (some qname) ∨
      ∃ name ∈ seen, ∃ fewer ≤ links, graph.LeadsTo fewer name outer := by
  -- by the rounds left, and within a round by the links, as the way may come back to its name
  induction rounds generalizing links seen qname with
  | zero =>
      by_cases again : qname ∈ seen
      · exact Or.inr ⟨qname, again, links, Nat.le_refl links, leads⟩
      · -- without a round left every name was met before
        have fits : (qname :: seen).length ≤ graph.qnames.length :=
          List.Nodup.length_le_of_subset (List.nodup_cons.mpr ⟨again, distinct⟩)
            (List.forall_mem_cons.mpr ⟨leads.mem_qnames, known⟩)
        have counted : graph.size = graph.qnames.length := KeyMap.size_eq graph.entities
        rw [List.length_cons] at fits
        omega
  | succ rounds nextRound =>
      induction links using Nat.strongRecOn with
      | ind links shorterWay =>
          by_cases again : qname ∈ seen
          · exact Or.inr ⟨qname, again, links, Nat.le_refl links, leads⟩
          · cases leads with
            | own found =>
                rw [ancestorsFrom_of_found again found]
                exact Or.inl List.mem_cons_self
            | @above later _ parent entity _ found inside above =>
                have isKnown : qname ∈ graph.qnames := (LeadsTo.own found).mem_qnames
                rcases nextRound above (List.nodup_cons.mpr ⟨again, distinct⟩)
                    (List.forall_mem_cons.mpr ⟨isKnown, known⟩)
                    (by rw [List.length_cons]; omega) with
                  isMet | ⟨name, isSeen, fewer, bound, back⟩
                · rw [ancestorsFrom_of_found again found, inside]
                  exact Or.inl (List.mem_cons_of_mem entity isMet)
                · rcases List.mem_cons.mp isSeen with rfl | wasSeen
                  · rcases shorterWay fewer (by omega) back with
                      isMet | ⟨name, wasSeen, least, smaller, onward⟩
                    · exact Or.inl isMet
                    · exact Or.inr ⟨name, wasSeen, least, by omega, onward⟩
                  · exact Or.inr ⟨name, wasSeen, fewer, by omega, back⟩

/-- The walk finds exactly what parent links lead to. -/
theorem mem_ancestors_iff {qname : String} {outer : Entity} :
    outer ∈ graph.ancestors qname ↔ ∃ links, graph.LeadsTo links qname outer := by
  constructor
  · exact leadsTo_of_mem_ancestorsFrom
  · rintro ⟨links, leads⟩
    have walk : outer ∈ graph.ancestorsFrom graph.size [] (some qname) ∨ _ :=
      leads.mem_ancestorsFrom List.nodup_nil (List.forall_mem_nil _) (Nat.le_refl _)
    rcases walk with isMet | ⟨name, isSeen, _⟩
    · exact isMet
    · cases isSeen

end EntityGraph

theorem Entity.isFunctionLocal_iff {entity : Entity} :
    entity.isFunctionLocal graph = true ↔
      entity.parent = none ∨
      ∃ parent, entity.parent = some parent ∧
        (Text.occurs assignmentMarker parent.toList = true ∨
          ∃ links outer, graph.LeadsTo links parent outer ∧ outer.isAssignment = true) := by
  unfold isFunctionLocal
  cases entity.parent with
  | none => simp
  | some parent =>
      simp only [Bool.or_eq_true, List.any_eq_true, EntityGraph.mem_ancestors_iff, reduceCtorEq,
        Option.some.injEq, exists_eq_left', false_or]
      constructor
      · rintro (marked | ⟨outer, ⟨links, leads⟩, assigns⟩)
        · exact Or.inl marked
        · exact Or.inr ⟨links, outer, leads, assigns⟩
      · rintro (marked | ⟨links, outer, leads, assigns⟩)
        · exact Or.inl marked
        · exact Or.inr ⟨outer, ⟨links, leads⟩, assigns⟩

end CodeGraph
