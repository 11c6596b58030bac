import CodeGraph.Proofs.GraphRecords

/-!
# Merging routing tables

A table is filled by insertions and by taking in tables that were filled apart.  It is the table of
everything that was put in, `Filling.table_eq_ofList`, so what stands under a name is what came
last.  Entities are in one part of a graph each, so their parts may be classified apart and merged
in any order: no name comes twice, and nothing is lost.
-/

set_option autoImplicit false

namespace CodeGraph

inductive Filling where
  | new
  | insert (before : Filling) (qname : String) (nodeClass : NodeClass)
  | extend (before other : Filling)

namespace Filling

def table : Filling → RoutingTable
  | new => .empty
  | insert before qname nodeClass => before.table.insert qname nodeClass
  | extend before other => before.table.extend other.table

/-- What was put in, in such an order that the last entry with a name counts. -/
def entries : Filling → List (String × NodeClass)
  | new => []
  | insert before qname nodeClass => before.entries ++ [(qname, nodeClass)]
  | extend before other => before.entries ++ other.entries

def classifyNext (graph : EntityGraph) (before : Filling) (entry : String × Entity) : Filling :=
  match entry.2.node? entry.1 graph with
  | some node => before.insert entry.1 node.nodeClass
  | none => before

def classify (graph : EntityGraph) (entities : List (String × Entity)) : Filling :=
  entities.foldl (classifyNext graph) new

/-- The tables of parts, merged in some grouping.  The parts are listed from left to right. -/
inductive Merges (graph : EntityGraph) : List (List (String × Entity)) → Filling → Prop where
  | new : Merges graph [] new
  | part (entities : List (String × Entity)) : Merges graph [entities] (classify graph entities)
  | extend {first second : List (List (String × Entity))} {before other : Filling}
      (left : Merges graph first before) (right : Merges graph second other) :
      Merges graph (first ++ second) (before.extend other)

end Filling

/-! ## The entries of a table -/

namespace Filling

/-- However a table is filled, it is the one of the entries that were put in. -/
theorem table_eq_ofList (filling : Filling) : filling.table = .ofList filling.entries := by
  induction filling with
  | new => rfl
  | insert before qname nodeClass inductionHypothesis =>
      rw [table, inductionHypothesis, entries]
      exact congrArg RoutingTable.mk (KeyMap.ofList_append_singleton _ (qname, nodeClass)).symm
  | extend before other beforeHypothesis otherHypothesis =>
      rw [table, beforeHypothesis, otherHypothesis, entries]
      exact congrArg RoutingTable.mk (KeyMap.ofList_append _ _).symm

theorem resolve?_table (filling : Filling) (qname : String) :
    filling.table.resolve? qname =
      ((filling.entries.filter fun entry => entry.1 = qname).getLast?).map Prod.snd := by
  rw [table_eq_ofList]
  exact (KeyMap.get?_ofList _ _).trans (KeyMap.lookup_reverse _ _)

theorem size_table (filling : Filling) :
    filling.table.size = (filling.entries.map Prod.fst).eraseDups.length := by
  rw [table_eq_ofList]
  exact KeyMap.size_ofList _

end Filling

/-! ## Counting classes -/

theorem RoutingTable.sumOf_counts (table : RoutingTable) :
    sumOf (table.counts.map Prod.snd) = table.size := by
  have distinct : NodeClass.all.Nodup := by decide
  have counted := sumOf_positiveCounts distinct table.classes.values
    fun nodeClass _ => nodeClass.mem_all
  exact counted.trans (List.length_map _)

/-! ## Tables of parts -/

/-- The entries of entities with their classes; the others give none. -/
def EntityGraph.routesOf (graph : EntityGraph) (entities : List (String × Entity)) :
    List (String × NodeClass) :=
  entities.filterMap fun entry =>
    (entry.2.nodeClass? graph).map fun nodeClass => (entry.1, nodeClass)

namespace Filling

variable {graph : EntityGraph}

theorem entries_classifyNext (before : Filling) (entry : String × Entity) :
    (classifyNext graph before entry).entries = before.entries ++ graph.routesOf [entry] := by
  have isClass := entry.2.map_nodeClass_node? entry.1 graph
  unfold classifyNext
  cases isNode : entry.2.node? entry.1 graph with
  | some node => simp [EntityGraph.routesOf, ← isClass, isNode, entries]
  | none => simp [EntityGraph.routesOf, ← isClass, isNode]

theorem entries_foldl_classifyNext (entities : List (String × Entity)) (before : Filling) :
    (entities.foldl (classifyNext graph) before).entries =
      before.entries ++ graph.routesOf entities := by
  induction entities generalizing before with
  | nil => simp [EntityGraph.routesOf]
  | cons first later inductionHypothesis =>
      have split : graph.routesOf (first :: later) =
          graph.routesOf [first] ++ graph.routesOf later :=
        List.filterMap_append (l := [first])
      rw [List.foldl_cons, inductionHypothesis, entries_classifyNext, split, List.append_assoc]

theorem entries_classify (entities : List (String × Entity)) :
    (classify graph entities).entries = graph.routesOf entities :=
  entries_foldl_classifyNext entities new

/-- Nothing but the classes of the parts comes into the merged table. -/
theorem Merges.entries_eq {parts : List (List (String × Entity))} {merged : Filling}
    (merges : Merges graph parts merged) : merged.entries = graph.routesOf parts.flatten := by
  induction merges with
  | new => rfl
  | part entities => rw [entries_classify, List.flatten_singleton]
  | extend _ _ leftHypothesis rightHypothesis =>
      rw [entries, leftHypothesis, rightHypothesis, List.flatten_append, EntityGraph.routesOf,
        EntityGraph.routesOf, EntityGraph.routesOf, List.filterMap_append]

theorem table_classify_toList : (classify graph graph.toList).table = .ofGraph graph := by
  rw [table_eq_ofList, entries_classify]
  rfl

/-- Parts that make up a graph give its table, however they are merged. -/
theorem Merges.table_eq {parts : List (List (String × Entity))} {merged : Filling}
    (merges : Merges graph parts merged) (whole : parts.flatten.Perm graph.toList) :
    merged.table = .ofGraph graph := by
  have perm : (graph.routesOf parts.flatten).Perm graph.routes := whole.filterMap _
  -- no name stands in two parts, so that none takes the place of another one
  have distinct : ((graph.routesOf parts.flatten).map Prod.fst).Nodup :=
    (perm.map Prod.fst).nodup_iff.mpr graph.nodup_routes
  rw [table_eq_ofList, merges.entries_eq]
  exact congrArg RoutingTable.mk (KeyMap.ofList_eq_of_perm perm distinct)

end Filling

/-- The parts of a graph may be classified apart, each against the whole graph.  Whatever the parts
are, and in whatever order and grouping their tables are merged, the merged table gives the answers
and the numbers of the one into which all entities are classified one after the other, which is the
table of the graph.  And however a table is filled, also where names come again: it has for each
name the class that came last, as many names as came, and counts each of them for one class. -/
theorem partitioned_classification_merges (graph : EntityGraph) :
    let whole := (Filling.classify graph graph.toList).table
    whole = .ofGraph graph ∧
    (∀ (parts order : List (List (String × Entity))) (merged : Filling),
      parts.flatten.Perm graph.toList → order.Perm parts → Filling.Merges graph order merged →
        (∀ qname,
          merged.table.resolve? qname = whole.resolve? qname ∧
          merged.table.contains qname = whole.contains qname) ∧
        merged.table.size = whole.size ∧
        (∀ nodeClass, merged.table.count nodeClass = whole.count nodeClass) ∧
        merged.table.counts = whole.counts) ∧
    ∀ filling : Filling,
      (∀ qname, filling.table.resolve? qname =
        ((filling.entries.filter fun entry => entry.1 = qname).getLast?).map Prod.snd) ∧
      filling.table.size = (filling.entries.map Prod.fst).eraseDups.length ∧
      sumOf (filling.table.counts.map Prod.snd) = filling.table.size := by
  intro whole
  refine ⟨Filling.table_classify_toList, ?_, ?_⟩
  · intro parts order merged isSplit isOrder merges
    have same : merged.table = whole := by
      rw [merges.table_eq (isOrder.flatten.trans isSplit), ← Filling.table_classify_toList]
    rw [same]
    exact ⟨fun _ => ⟨rfl, rfl⟩, rfl, fun _ => rfl, rfl⟩
  · intro filling
    exact ⟨filling.resolve?_table, filling.size_table, filling.table.sumOf_counts⟩

/-- Two parts, the later one first, and a table that nothing was put into.  The entity that has no
class is in neither count. -/
theorem partitioned_classification_merges_reversed :
    let graph := EntityGraph.ofList
      [("m", .named "m" .sourceModule), ("m.f", .named "f" .function), ("x", .named "x" .other)]
    let parts := [graph.toList.take 1, graph.toList.drop 1]
    let merged := Filling.extend (.extend .new (.classify graph (graph.toList.drop 1)))
      (.classify graph (graph.toList.take 1))
    parts.flatten.Perm graph.toList ∧ Filling.Merges graph parts.reverse merged ∧
      merged.table.counts = [(.functions, 1), (.modules, 1)] ∧
      merged.table.resolve? "m.f" = (RoutingTable.ofGraph graph).resolve? "m.f" := by
  intro graph parts merged
  have isSplit : parts.flatten.Perm graph.toList := by
    rw [List.flatten_cons, List.flatten_singleton, List.take_append_drop]
  have merges : Filling.Merges graph parts.reverse merged :=
    .extend (.extend .new (.part _)) (.part _)
  obtain ⟨isTable, ofParts, _⟩ := partitioned_classification_merges graph
  obtain ⟨answers, _, _, counts⟩ := ofParts parts _ merged isSplit (List.reverse_perm parts) merges
  refine ⟨isSplit, merges, counts.trans (by decide +kernel), ?_⟩
  rw [(answers "m.f").1, isTable]

end CodeGraph
