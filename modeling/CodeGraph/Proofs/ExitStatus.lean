import CodeGraph.Proofs.Readiness
import CodeGraph.Proofs.Statistics

/-!
# What the exit status says

A session exits with status 0 if nothing failed.  What a run could not write only counts as a
failure where it is to count, and is told from the numbers of the run: these are zero if and only if
the destination stated of every batch that it took all of it, `Writer.failures_finish_eq_zero_iff`.
-/

set_option autoImplicit false

namespace CodeGraph

open CommandLine (Command WriteOptions GraphTarget SearchTarget)

variable {ν σ : Type}

/-! ## The numbers of a run -/

theorem WriteReport.failures_eq_zero_iff (report : WriteReport) :
    report.failures = 0 ↔ report.isClean := by
  simp [failures, isClean]

theorem Writer.failures_finish_eq_zero_iff (destination : Destination σ) (state : σ)
    (batchSize : Nat) {orders : List Order} (noneGivenUp : orders.countP Order.givesUp = 0) :
    ((Writer.start destination state batchSize).followAll orders).finish.report.failures = 0 ↔
      ∀ delivery ∈ deliveriesOf destination state batchSize orders, delivery.isComplete := by
  rw [WriteReport.failures_eq_zero_iff,
    (Writer.balanced_finish destination state batchSize orders).isClean_iff]
  exact and_iff_right noneGivenUp

/-! ## The numbers of a command -/

namespace EntityGraph

variable (entities : EntityGraph) (options : WriteOptions) (opened : Opened ν) (world : World ν)

def graphDeliveries : List Delivery :=
  opened.graph.elim [] fun entry =>
    deliveriesOf entry.2 world (options.batchSize.getD graphBatchSize) entities.transform.orders

/-- What the destination of the search documents answered, if there is one.  Its run begins with the
world that the other run leaves. -/
def searchDeliveries : List Delivery :=
  let between := (entities.writeIfAny (options.batchSize.getD graphBatchSize) world
    (opened.graph.map Prod.snd)).state
  opened.search.elim [] fun entry =>
    deliveriesOf entry.2 between (options.batchSize.getD searchBatchSize)
      (entities.searchOrders entry.1.collection)

theorem failures_writeAll_eq_zero_iff :
    (entities.writeAll options opened world).summary.failures = 0 ↔
      ∀ delivery ∈ entities.graphDeliveries options opened world ++
        entities.searchDeliveries options opened world, delivery.isComplete := by
  have ofGraph : ∀ batchSize, (entities.writeIfAny batchSize world
      (opened.graph.map Prod.snd)).summary.graph.elim 0 GraphStats.failures = 0 ↔
        ∀ delivery ∈ opened.graph.elim [] fun entry =>
          deliveriesOf entry.2 world batchSize entities.transform.orders, delivery.isComplete := by
    intro batchSize
    cases opened.graph with
    | none => simp [writeIfAny]
    | some entry =>
        simp only [writeIfAny, write_eq, Option.map_some, Option.elim_some]
        exact Writer.failures_finish_eq_zero_iff entry.2 world batchSize
          entities.transform.countP_givesUp_orders
  have ofSearch : ∀ batchSize (between : World ν), (entities.indexIfAny batchSize between
      (opened.search.map fun entry =>
        (entry.1.collection, entry.2))).summary.search.elim 0 SearchStats.failures = 0 ↔
          ∀ delivery ∈ opened.search.elim [] fun entry => deliveriesOf entry.2 between batchSize
            (entities.searchOrders entry.1.collection), delivery.isComplete := by
    intro batchSize between
    cases opened.search with
    | none => simp [indexIfAny]
    | some entry =>
        simp only [indexIfAny, index_eq, Option.map_some, Option.elim_some]
        exact Writer.failures_finish_eq_zero_iff entry.2 between batchSize
          (entities.countP_givesUp_searchOrders entry.1.collection)
  rw [List.forall_mem_append, graphDeliveries, searchDeliveries, ← ofGraph, ← ofSearch,
    Summary.failures, Nat.add_eq_zero_iff]
  rfl

end EntityGraph

/-! ## The status -/

theorem Failure.exitStatus_ne_zero (failure : Failure) : failure.exitStatus ≠ 0 := by
  unfold exitStatus
  cases failure.isAbrupt <;> decide

theorem Outcome.exitStatus_eq_zero_iff (outcome : Outcome ν) :
    outcome.exitStatus = 0 ↔ outcome.failure = none := by
  unfold exitStatus
  cases outcome.failure with
  | none => exact ⟨fun _ => rfl, fun _ => rfl⟩
  | some failure => exact iff_of_false failure.exitStatus_ne_zero nofun

theorem strictFailure?_eq_none_iff (strict : Bool) (summary : Summary) :
    strictFailure? strict summary = none ↔ (strict = true → summary.failures = 0) := by
  cases strict <;> simp [strictFailure?]

/-- A session that writes exits with status 0 if and only if its input is loaded, every step towards
its destinations succeeds and, where losses are to count, the destinations stated of every batch
that they took all of it.  The batches hold the records of all nodes and edges and all search
documents, each once. -/
theorem exit_status_tells_the_truth (surroundings : Surroundings ν) (options : WriteOptions)
    (graph : Option GraphTarget) (search : Option SearchTarget) (world : World ν) :
    let command := Command.write options graph search
    let opened := surroundings.destinations options graph search
    let prepared := surroundings.performAll command.setup world
    ((surroundings.run command world).exitStatus = 0 ↔
      ∃ entities, surroundings.load options.input = .ok entities ∧ prepared.1 = .ok () ∧
        (options.strict = true →
          ∀ delivery ∈ entities.graphDeliveries options opened prepared.2 ++
            entities.searchDeliveries options opened prepared.2, delivery.isComplete)) ∧
    ∀ entities : EntityGraph,
      (graph.isSome →
        let sent := (entities.graphDeliveries options opened prepared.2).map Delivery.batch
        (∀ nodeClass : NodeClass, sentTo nodeClass.name sent =
          (entities.transform.nodes.filter fun node => node.nodeClass = nodeClass).map fun node =>
            node.document.toValue) ∧
        ∀ edgeClass : EdgeClass, sentTo edgeClass.name sent =
          (entities.transform.edges.filter fun edge => edge.edgeClass = edgeClass).map fun edge =>
            edge.document.toValue) ∧
      ∀ target, search = some target →
        sentTo target.collection
            ((entities.searchDeliveries options opened prepared.2).map Delivery.batch) =
          entities.searchDocuments.map SearchDocument.toValue := by
  intro command opened prepared
  refine ⟨?_, fun entities => ⟨fun hasGraph => ?_, fun target isTarget => ?_⟩⟩
  · rw [Outcome.exitStatus_eq_zero_iff]
    cases loaded : surroundings.load options.input with
    | error error =>
        rw [Surroundings.run_of_unloaded loaded]
        exact iff_of_false nofun fun ⟨_, isLoaded, _⟩ => nomatch isLoaded
    | ok entities =>
        cases taken : surroundings.performAll command.setup world with
        | mk answer after =>
            have isAnswer : prepared.1 = answer := congrArg Prod.fst taken
            have isAfter : prepared.2 = after := congrArg Prod.snd taken
            rw [isAnswer, isAfter]
            -- a session that stops early fails, and only one that does not is judged by its numbers
            cases answer with
            | error error =>
                obtain ⟨_, _, failed⟩ := Surroundings.run_of_unready loaded taken
                rw [failed]
                exact iff_of_false nofun fun ⟨_, _, succeeded, _⟩ => nomatch succeeded
            | ok =>
                obtain ⟨_, _, failed⟩ := Surroundings.run_of_ready loaded taken
                rw [failed, strictFailure?_eq_none_iff,
                  EntityGraph.failures_writeAll_eq_zero_iff]
                constructor
                · exact fun complete => ⟨entities, rfl, rfl, complete⟩
                · rintro ⟨other, isLoaded, _, complete⟩
                  cases isLoaded
                  exact complete
  · intro sent
    obtain ⟨target, rfl⟩ := Option.isSome_iff_exists.mp hasGraph
    refine ⟨fun nodeClass => ?_, fun edgeClass => ?_⟩
    · rw [← Transformation.pushedTo_nodeClass]
      exact sentTo_deliveriesOf _ _ _ _ _
    · rw [← Transformation.pushedTo_edgeClass]
      exact sentTo_deliveriesOf _ _ _ _ _
  · subst isTarget
    rw [← EntityGraph.pushedTo_searchOrders]
    exact sentTo_deliveriesOf _ _ _ _ _

/-- A search server takes one of two documents, or the disk takes both but fails to flush them.  The
session fails where that is to count, and else does not. -/
theorem exit_status_tells_the_truth_of_loss :
    let entities := EntityGraph.ofList [("f", .named "f" .function), ("g", .named "g" .function)]
    let surroundings : Surroundings Http.Script := {
      load := fun _ => .ok entities
      openStore := fun _ script => { answer := .ok .empty, state := script }
      disk := fun _ step script =>
        (match step with
          | .flush => .error (.system "No space left on device (os error 28)")
          | _ => .ok (), script)
      network := .scripted 0 }
    let command (store : Option String) (strict : Bool) := Command.write
      { input := "f.json", batchSize := none, store, skipSetup := true, strict, json := false }
      none (some ⟨{}, defaultSearchCollection⟩)
    let taking : Http.Response :=
      ⟨200, "\x7b\"success\":true\x7d\n\x7b\"success\":false\x7d"⟩
    let world : World Http.Script := {
      outside := { answers := [Http.Script.plainAnswer, taking] } }
    ∀ store ∈ [none, some "full"],
      (surroundings.run (command store true) world).exitStatus ≠ 0 ∧
        (surroundings.run (command store false) world).exitStatus = 0 := by
  intro entities surroundings command taking world store member
  have stores : store = none ∨ store = some "full" := by simpa using member
  constructor
  · intro isZero
    obtain ⟨loaded, isLoaded, _, complete⟩ :=
      (exit_status_tells_the_truth surroundings _ none _ world).1.mp isZero
    cases isLoaded
    have allTaken := List.all_eq_true.mpr (complete rfl)
    revert allTaken
    rcases stores with rfl | rfl <;> decide +kernel
  · have succeeds :
        (surroundings.performAll (command store false).setup world).1.toBool = true := by
      rcases stores with rfl | rfl <;> decide +kernel
    refine (exit_status_tells_the_truth surroundings _ none _ world).1.mpr
      ⟨entities, rfl, ?_, nofun⟩
    cases answered : (surroundings.performAll (command store false).setup world).1 with
    | error =>
        rw [answered] at succeeds
        cases succeeds
    | ok => rfl

end CodeGraph
