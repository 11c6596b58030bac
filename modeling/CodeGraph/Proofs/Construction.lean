import CodeGraph.Proofs.Phases
import CodeGraph.Proofs.Text.ByteOrder
import CodeGraph.SearchRun

/-!
# Graphs by their contents

A graph is built by insertions and by collecting lists of entries.  Only the last record under each
name counts, `Construction.graph_eq_iff`: in which order the names came and what stood under them
before leaves no trace, neither in the graph nor in what is written of it.
-/

set_option autoImplicit false

namespace CodeGraph

variable {σ : Type}

inductive Construction where
  | new
  | insert (before : Construction) (qname : String) (entity : Entity)
  /-- The entries of the graph so far are collected again, and those of a list after them. -/
  | collect (before : Construction) (entries : List (String × Entity))

namespace Construction

def graph : Construction → EntityGraph
  | new => .empty
  | insert before qname entity => before.graph.insert qname entity
  | collect before entries => .ofList (before.graph.toList ++ entries)

def entries : Construction → List (String × Entity)
  | new => []
  | insert before qname entity => before.entries ++ [(qname, entity)]
  | collect before entries => before.entries ++ entries

end Construction

def lastRecord? (entries : List (String × Entity)) (qname : String) : Option Entity :=
  ((entries.filter fun entry => entry.1 = qname).getLast?).map Prod.snd

theorem lastRecord?_append (first second : List (String × Entity)) (qname : String) :
    lastRecord? (first ++ second) qname =
      (lastRecord? second qname).or (lastRecord? first qname) := by
  rw [lastRecord?, List.filter_append, List.getLast?_append, Option.map_or]
  rfl

theorem lastRecord?_singleton (entry : String × Entity) (qname : String) :
    lastRecord? [entry] qname = if qname = entry.1 then some entry.2 else none := by
  unfold lastRecord?
  by_cases same : entry.1 = qname
  · simp [same]
  · simp [same, Ne.symm same]

theorem EntityGraph.get?_ofList (entries : List (String × Entity)) (qname : String) :
    (EntityGraph.ofList entries).get? qname = lastRecord? entries qname :=
  (KeyMap.get?_ofList entries qname).trans (KeyMap.lookup_reverse entries qname)

theorem EntityGraph.lastRecord?_toList (graph : EntityGraph) (qname : String) :
    lastRecord? graph.toList qname = graph.get? qname := by
  rw [← get?_ofList, ofList, toList, KeyMap.ofList_entries]

theorem EntityGraph.ext_get? {first second : EntityGraph}
    (same : ∀ qname, first.get? qname = second.get? qname) : first = second :=
  congrArg EntityGraph.mk (KeyMap.ext_get? same)

namespace Construction

/-- A graph holds the last record that was put in under each name. -/
theorem get?_graph (construction : Construction) (qname : String) :
    construction.graph.get? qname = lastRecord? construction.entries qname := by
  induction construction with
  | new => rfl
  | insert before name entity inductionHypothesis =>
      rw [entries, lastRecord?_append, lastRecord?_singleton, ← inductionHypothesis]
      refine (KeyMap.get?_insert before.graph.entities name qname entity).trans ?_
      by_cases same : qname = name
      · rw [if_pos same, if_pos same, Option.some_or]
      · rw [if_neg same, if_neg same, Option.none_or]
        rfl
  | collect before later inductionHypothesis =>
      rw [entries, lastRecord?_append, ← inductionHypothesis, graph, EntityGraph.get?_ofList,
        lastRecord?_append, EntityGraph.lastRecord?_toList]

/-- However a graph is built, it is the one that collecting its entries gives. -/
theorem graph_eq_ofList (construction : Construction) :
    construction.graph = .ofList construction.entries := by
  refine EntityGraph.ext_get? fun qname => ?_
  rw [get?_graph, EntityGraph.get?_ofList]

theorem graph_eq_iff {first second : Construction} :
    first.graph = second.graph ↔
      ∀ qname, lastRecord? first.entries qname = lastRecord? second.entries qname := by
  constructor
  · intro same qname
    rw [← get?_graph, ← get?_graph, same]
  · intro same
    refine EntityGraph.ext_get? fun qname => ?_
    rw [get?_graph, get?_graph, same]

theorem mem_qnames_graph {construction : Construction} {qname : String} :
    qname ∈ construction.graph.qnames ↔ qname ∈ construction.entries.map Prod.fst := by
  rw [graph_eq_ofList]
  exact KeyMap.mem_keys_ofList

end Construction

/-- The names of a graph stand in the order of their bytes, each once. -/
theorem EntityGraph.qnames_ordered (graph : EntityGraph) :
    graph.qnames.Pairwise fun first second => Text.bytesOf first < Text.bytesOf second :=
  graph.entities.keys_ordered.imp Text.lt_iff_bytesOf_lt.mp

/-- The batches that a search run offers to a destination, in order. -/
def EntityGraph.searchCalls (graph : EntityGraph) (collection : String)
    (destination : Destination σ) (state : σ) (batchSize : Nat) : List Batch :=
  (graph.index collection destination.traced ([], state) batchSize).2.calls

/-- A graph is determined by the last record under each name, however it was built.  It holds these
records and no other ones, and lists them in the order of the bytes of their names.  So two ways to
build it that end with the same records give the same answers, the same batches to every destination
and the same numbers. -/
theorem graph_is_determined_by_last_records {first second : Construction}
    (same : ∀ qname, lastRecord? first.entries qname = lastRecord? second.entries qname) :
    first.graph.size = second.graph.size ∧
    (∀ qname,
      first.graph.get? qname = second.graph.get? qname ∧
      first.graph.get? qname = lastRecord? first.entries qname ∧
      first.graph.kindOf? qname = second.graph.kindOf? qname ∧
      first.graph.contains qname = second.graph.contains qname) ∧
    first.graph.toList = second.graph.toList ∧
    ((first.graph.toList.map Prod.fst).Pairwise fun one later =>
      Text.bytesOf one < Text.bytesOf later) ∧
    (∀ qname, qname ∈ first.graph.toList.map Prod.fst ↔ qname ∈ first.entries.map Prod.fst) ∧
    ∀ (destination : Destination σ) (state : σ) (batchSize : Nat),
      first.graph.calls destination state batchSize =
        second.graph.calls destination state batchSize ∧
      (first.graph.write destination state batchSize).1 =
        (second.graph.write destination state batchSize).1 ∧
      ∀ collection,
        first.graph.searchCalls collection destination state batchSize =
          second.graph.searchCalls collection destination state batchSize ∧
        (first.graph.index collection destination state batchSize).1 =
          (second.graph.index collection destination state batchSize).1 := by
  have sameGraph : first.graph = second.graph := Construction.graph_eq_iff.mpr same
  rw [← sameGraph]
  exact ⟨rfl, fun qname => ⟨rfl, first.get?_graph qname, rfl, rfl⟩, rfl,
    first.graph.qnames_ordered, fun _ => Construction.mem_qnames_graph,
    fun _ _ _ => ⟨rfl, rfl, fun _ => ⟨rfl, rfl⟩⟩⟩

/-- One of two names is written over, and the names come in either order.  By their bytes
the wide tilde stands first, by units of sixteen bits it would stand last. -/
theorem graph_is_determined_by_last_records_shuffled :
    let wide := Entity.named "wide" .function
    let face := Entity.named "face" .classDef
    let inserted := (Construction.new.insert "😀" face).insert "～" wide
    let collected := (Construction.new.collect [("～", face), ("～", wide)]).insert "😀" face
    (∀ qname, lastRecord? inserted.entries qname = lastRecord? collected.entries qname) ∧
      inserted.graph.toList = collected.graph.toList ∧
      inserted.graph.qnames = ["～", "😀"] ∧
      inserted.graph.calls Memory.destination {} 1 =
        collected.graph.calls Memory.destination {} 1 := by
  intro wide face inserted collected
  have same : ∀ qname,
      lastRecord? inserted.entries qname = lastRecord? collected.entries qname := by
    intro qname
    by_cases isWide : qname = "～"
    · subst isWide
      decide +kernel
    · by_cases isFace : qname = "😀"
      · subst isFace
        decide +kernel
      · simp [inserted, collected, Construction.entries, lastRecord?, Ne.symm isWide,
          Ne.symm isFace]
  obtain ⟨_, _, sameList, _, _, sameRuns⟩ := graph_is_determined_by_last_records same
  exact ⟨same, sameList, by decide +kernel, (sameRuns Memory.destination {} 1).1⟩

end CodeGraph
