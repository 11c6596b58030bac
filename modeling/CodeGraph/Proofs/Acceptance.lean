import CodeGraph.Proofs.Account
import CodeGraph.Proofs.Filing

/-!
# Runs that nothing refuses

How much of what was queued an account may count, for every destination, and what it counts when
the destination takes every batch: `Writer.complete_finish`.  A destination in memory without plans
takes everything, and a store takes every batch whose documents have keys.
-/

set_option autoImplicit false

namespace CodeGraph

variable {σ : Type}

/-! ## Any destination -/

theorem length_sentTo (collection : String) (deliveries : List Delivery) :
    (sentTo collection (deliveries.map Delivery.batch)).length =
      sumOf (((deliveries.filter fun delivery => delivery.batch.collection = collection).map
        Delivery.batch).map Batch.size) := by
  induction deliveries with
  | nil => rfl
  | cons first later inductionHypothesis =>
      rw [List.map_cons, sentTo_cons, List.length_append, inductionHypothesis]
      by_cases same : first.batch.collection = collection
      · simp [same, sumOf, Batch.size]
      · simp [same]

namespace Balanced

variable {deliveries : List Delivery} {givenUp : Nat} {report : WriteReport}

theorem deliveredTo_add_lost (balanced : Balanced deliveries givenUp report)
    (collection : String) :
    report.deliveredTo collection +
        sumOf ((deliveries.filter fun delivery => delivery.batch.collection = collection).map
          Delivery.lost) =
      (sentTo collection (deliveries.map Delivery.batch)).length := by
  rw [balanced.deliveredTo, sumOf_taken_add_lost, length_sentTo]

theorem totalDelivered_of_collections (balanced : Balanced deliveries givenUp report)
    {collections : List String} (distinct : collections.Nodup)
    (known : ∀ delivery ∈ deliveries, delivery.batch.collection ∈ collections) :
    sumOf (collections.map report.deliveredTo) = report.totalDelivered := by
  have grouped := sumOf_groups (fun delivery : Delivery => delivery.batch.collection)
    Delivery.taken distinct deliveries known
  rw [balanced.totalDelivered, ← grouped]
  congr 1
  exact List.map_congr_left fun collection _ => balanced.deliveredTo collection

end Balanced

def deliveriesOf (destination : Destination σ) (state : σ) (batchSize : Nat)
    (orders : List Order) : List Delivery :=
  ((Writer.recording destination state batchSize).followAll orders).finish.deliveries

theorem Writer.balanced_finish (destination : Destination σ) (state : σ) (batchSize : Nat)
    (orders : List Order) :
    Balanced (deliveriesOf destination state batchSize orders) (orders.countP Order.givesUp)
      ((Writer.start destination state batchSize).followAll orders).finish.report := by
  have balanced := Writer.balanced_followAll destination state batchSize (orders ++ [.flush])
  rw [List.countP_append] at balanced
  rw [deliveriesOf, Writer.finish_followAll, Writer.finish_followAll]
  exact balanced

theorem batch_deliveriesOf (destination : Destination σ) (state : σ) (batchSize : Nat)
    (orders : List Order) :
    (deliveriesOf destination state batchSize orders).map Delivery.batch =
      sent ((Buffers.ofSize batchSize).followAll (orders ++ [.flush])).1 := by
  rw [deliveriesOf, Writer.finish_followAll, Writer.batches_followAll]

theorem sentTo_deliveriesOf (destination : Destination σ) (state : σ) (batchSize : Nat)
    (orders : List Order) (collection : String) :
    sentTo collection ((deliveriesOf destination state batchSize orders).map Delivery.batch) =
      pushedTo collection orders := by
  rw [batch_deliveriesOf, Buffers.sentTo_flushed]

theorem Writer.totalDelivered_finish (destination : Destination σ) (state : σ) (batchSize : Nat)
    (orders : List Order) :
    let report := ((Writer.start destination state batchSize).followAll orders).finish.report
    report.totalDelivered + report.failedDocuments =
      orders.countP Order.givesUp + (pushes orders).length := by
  intro report
  have conserved := (Writer.balanced_finish destination state batchSize orders).conserves
  have counted := (Buffers.sound_ofSize batchSize).size_followAll (orders ++ [.flush])
  have noneBefore : (Buffers.ofSize batchSize).size = 0 := rfl
  have noneInFlush : pushes [.flush] = [] := rfl
  have noneAfter : ((Buffers.ofSize batchSize).followAll (orders ++ [.flush])).2.size = 0 := by
    rw [Buffers.followAll_append, Buffers.followAll_singleton]
    exact Buffers.size_emptied _
  rw [noneAfter, noneBefore, pushes_append, noneInFlush, List.append_nil, Nat.add_zero,
    Nat.zero_add] at counted
  rw [batch_deliveriesOf, counted] at conserved
  exact conserved

theorem Writer.sumOf_deliveredTo (destination : Destination σ) (state : σ) (batchSize : Nat)
    {orders : List Order} {collections : List String} (distinct : collections.Nodup)
    (known : ∀ push ∈ pushes orders, push.1 ∈ collections) :
    let report := ((Writer.start destination state batchSize).followAll orders).finish.report
    sumOf (collections.map report.deliveredTo) = report.totalDelivered := by
  refine (Writer.balanced_finish destination state batchSize orders).totalDelivered_of_collections
    distinct fun delivery member => ?_
  have isSent : delivery.batch.collection ∈
      ((deliveriesOf destination state batchSize orders).map Delivery.batch).map
        Batch.collection :=
    List.mem_map_of_mem (List.mem_map_of_mem member)
  rw [batch_deliveriesOf, mem_collections_sent] at isSent
  obtain ⟨push, isPush, inCollection⟩ := List.mem_map.mp isSent
  exact inCollection ▸ known push isPush

theorem Writer.deliveredTo_finish_le (destination : Destination σ) (state : σ) (batchSize : Nat)
    (orders : List Order) (collection : String) :
    ((Writer.start destination state batchSize).followAll orders).finish.report.deliveredTo
        collection ≤
      (pushedTo collection orders).length := by
  have split := (Writer.balanced_finish destination state batchSize orders).deliveredTo_add_lost
    collection
  rw [sentTo_deliveriesOf] at split
  omega

/-! ## Destinations that take everything -/

/-- Being ready, the destination takes every batch that suits it, and stays ready. -/
structure Destination.Accepts (destination : Destination σ) (ready : σ → Prop)
    (suits : Batch → Prop) : Prop where
  takes : ∀ batch state, suits batch → ready state →
    ∃ stated, (destination.upsert batch state).answer = .ok stated ∧ batch.size ≤ stated
  stays : ∀ batch state, suits batch → ready state →
    ready (destination.upsert batch state).state

theorem Memory.accepts (suits : Batch → Prop) :
    Memory.destination.Accepts (fun memory => memory.plan = []) suits where
  takes batch memory _ unplanned := by
    refine ⟨batch.size, ?_, Nat.le_refl _⟩
    simp [Memory.destination, Memory.answer, unplanned]
  stays batch memory _ unplanned := by
    simp [Memory.destination, Memory.answer, unplanned, Memory.keep]

theorem Store.accepts : Store.destination.Accepts (fun _ => True) Batch.Keyed where
  takes batch store keyed _ :=
    ⟨batch.size, congrArg Reply.answer (Store.answer_of_keyed keyed store), Nat.le_refl _⟩
  stays _ _ _ _ := trivial

variable {destination : Destination σ} {ready : σ → Prop} {suits : Batch → Prop}

theorem Progress.complete_handleAll (accepts : destination.Accepts ready suits)
    (progress : Progress (List Delivery × σ)) (isReady : ready progress.state.2)
    (complete : ∀ delivery ∈ progress.deliveries, delivery.isComplete) (outgoing : List Outgoing)
    (suited : ∀ batch ∈ sent outgoing, suits batch) :
    ∀ delivery ∈ (progress.handleAll destination.recorded outgoing).deliveries,
      delivery.isComplete := by
  induction outgoing generalizing progress with
  | nil => exact complete
  | cons first later inductionHypothesis =>
      cases first with
      | send batch =>
          have head : sent (.send batch :: later) = batch :: sent later := rfl
          rw [head] at suited
          have suitsBatch := suited batch List.mem_cons_self
          obtain ⟨stated, answered, enough⟩ := accepts.takes batch _ suitsBatch isReady
          -- the batch is one more complete delivery, and the destination is ready for the next
          refine inductionHypothesis (progress.handle destination.recorded (.send batch))
            (accepts.stays batch _ suitsBatch isReady) ?_
            fun other member => suited other (List.mem_cons_of_mem batch member)
          have logged : (progress.handle destination.recorded (.send batch)).deliveries =
              progress.deliveries ++
                [⟨batch, (destination.upsert batch progress.state.2).answer⟩] := by
            simp [Progress.deliveries, Progress.handle, Destination.recorded]
          rw [logged, answered]
          intro delivery member
          rcases List.mem_append.mp member with isOld | isNew
          · exact complete delivery isOld
          · rw [List.mem_singleton.mp isNew]
            simpa [Delivery.isComplete] using enough
      | givenUp => exact inductionHypothesis _ isReady complete suited
      | note => exact inductionHypothesis _ isReady complete suited

/-- The account of a run in which everything that was queued was taken. -/
structure WriteReport.Complete (report : WriteReport) (orders : List Order) : Prop where
  failedBatches : report.failedBatches = 0
  failedDocuments : report.failedDocuments = 0
  deliveredTo : ∀ collection, report.deliveredTo collection = (pushedTo collection orders).length

theorem Writer.complete_finish (accepts : destination.Accepts ready suits) {state : σ}
    (isReady : ready state) {batchSize : Nat} {orders : List Order}
    (suited : ∀ batch ∈ sent ((Buffers.ofSize batchSize).followAll (orders ++ [.flush])).1,
      suits batch)
    (noneGivenUp : ∀ order ∈ orders, ¬ order.givesUp) :
    ((Writer.start destination state batchSize).followAll orders).finish.report.Complete
      orders := by
  have balanced := Writer.balanced_finish destination state batchSize orders
  have complete : ∀ delivery ∈ deliveriesOf destination state batchSize orders,
      delivery.isComplete := by
    rw [deliveriesOf, Writer.finish_followAll, Writer.followAll_eq]
    exact Progress.complete_handleAll accepts _ isReady (List.forall_mem_nil _) _ suited
  have clean := balanced.isClean_iff.mpr ⟨List.countP_eq_zero.mpr noneGivenUp, complete⟩
  simp only [WriteReport.isClean, Bool.and_eq_true, beq_iff_eq] at clean
  refine ⟨clean.1, clean.2, fun collection => ?_⟩
  have split := balanced.deliveredTo_add_lost collection
  have noneLost : sumOf (((deliveriesOf destination state batchSize orders).filter
      fun delivery => delivery.batch.collection = collection).map Delivery.lost) = 0 := by
    apply sumOf_lost_eq_zero.mpr
    intro delivery member
    exact (Delivery.isComplete_iff.mp (complete delivery (List.mem_filter.mp member).1)).2
  rw [noneLost, sentTo_deliveriesOf] at split
  exact split

end CodeGraph
