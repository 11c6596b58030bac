import CodeGraph.Proofs.Delivery

/-!
# The account of a writer

The answers of a destination are observed by recording them.  The account balances against the
record, whatever the destination answers: it may refuse a batch, take less than it was sent or state
to have taken more.  `Balanced` is the invariant, one answer is its step, and
`writer_account_balances` puts it together with what the buffers hold.
-/

set_option autoImplicit false

namespace CodeGraph

variable {σ τ : Type}

/-- A batch and what a destination answered to it. -/
structure Delivery where
  batch : Batch
  answer : Except DeliveryError Nat

namespace Delivery

def succeeded (delivery : Delivery) : Bool :=
  match delivery.answer with
  | .ok _ => true
  | .error _ => false

def taken (delivery : Delivery) : Nat :=
  match delivery.answer with
  | .ok stated => min stated delivery.batch.size
  | .error _ => 0

def lost (delivery : Delivery) : Nat :=
  delivery.batch.size - delivery.taken

def isComplete (delivery : Delivery) : Bool :=
  match delivery.answer with
  | .ok stated => delivery.batch.size ≤ stated
  | .error _ => false

theorem taken_le (delivery : Delivery) : delivery.taken ≤ delivery.batch.size := by
  cases answer : delivery.answer with
  | ok stated =>
      simp only [taken, answer]
      exact Nat.min_le_right stated delivery.batch.size
  | error => simp [taken, answer]

theorem taken_add_lost (delivery : Delivery) :
    delivery.taken + delivery.lost = delivery.batch.size :=
  Nat.add_sub_cancel' delivery.taken_le

/-- A batch with documents that is refused loses one at least. -/
theorem lost_pos {delivery : Delivery} (nonempty : 0 < delivery.batch.size)
    (failed : delivery.succeeded = false) : 0 < delivery.lost := by
  cases answer : delivery.answer with
  | ok => simp [succeeded, answer] at failed
  | error => simpa [lost, taken, answer] using nonempty

theorem isComplete_iff {delivery : Delivery} :
    delivery.isComplete ↔ delivery.succeeded ∧ delivery.lost = 0 := by
  cases answer : delivery.answer with
  | ok stated =>
      simp only [isComplete, succeeded, lost, taken, answer, decide_eq_true_eq, true_and]
      omega
  | error => simp [isComplete, succeeded, answer]

theorem taken_eq_zero {delivery : Delivery} (failed : delivery.succeeded = false) :
    delivery.taken = 0 := by
  cases answer : delivery.answer with
  | ok => simp [succeeded, answer] at failed
  | error => simp [taken, answer]

end Delivery

/-! ## Sums over a record -/

theorem sumOf_taken_add_lost (deliveries : List Delivery) :
    sumOf (deliveries.map Delivery.taken) + sumOf (deliveries.map Delivery.lost) =
      sumOf ((deliveries.map Delivery.batch).map Batch.size) := by
  induction deliveries with
  | nil => rfl
  | cons first rest inductionHypothesis =>
      have parts := first.taken_add_lost
      simp only [List.map_cons, sumOf, ← inductionHypothesis]
      omega

theorem sumOf_lost_eq_zero {deliveries : List Delivery} :
    sumOf (deliveries.map Delivery.lost) = 0 ↔ ∀ delivery ∈ deliveries, delivery.lost = 0 := by
  induction deliveries with
  | nil => simp [sumOf]
  | cons first rest inductionHypothesis => simp [sumOf, inductionHypothesis]

/-- Every refused batch loses a document, so there are no more of them than of lost documents. -/
theorem countP_failed_le {deliveries : List Delivery}
    (nonempty : ∀ delivery ∈ deliveries, 0 < delivery.batch.size) :
    (deliveries.countP fun delivery => !delivery.succeeded) ≤
      sumOf (deliveries.map Delivery.lost) := by
  induction deliveries with
  | nil => exact Nat.le_refl 0
  | cons first rest inductionHypothesis =>
      have restBound := inductionHypothesis fun delivery member =>
        nonempty delivery (List.mem_cons_of_mem first member)
      rw [List.countP_cons, List.map_cons, sumOf]
      cases outcome : first.succeeded with
      | true =>
          simp only [Bool.not_true, Bool.false_eq_true, if_false]
          omega
      | false =>
          have firstLost := Delivery.lost_pos (nonempty first List.mem_cons_self) outcome
          simp only [Bool.not_false, if_true]
          omega

theorem sumOf_taken_le (deliveries : List Delivery) (collection : String) :
    sumOf ((deliveries.filter fun delivery => delivery.batch.collection = collection).map
        Delivery.taken) ≤
      (sentTo collection ((deliveries.filter Delivery.succeeded).map Delivery.batch)).length := by
  induction deliveries with
  | nil => exact Nat.le_refl 0
  | cons first rest inductionHypothesis =>
      by_cases same : first.batch.collection = collection
      · cases outcome : first.succeeded with
        | true =>
            have bound := first.taken_le
            simp only [List.filter_cons, same, outcome, decide_true, if_true, List.map_cons, sumOf,
              sentTo, chunksTo_cons, List.flatten_cons, List.length_append]
            exact Nat.add_le_add bound inductionHypothesis
        | false =>
            have nothing := Delivery.taken_eq_zero outcome
            simpa [List.filter_cons, same, outcome, sumOf, nothing] using inductionHypothesis
      · cases outcome : first.succeeded <;>
          simpa [List.filter_cons, same, outcome, sentTo, chunksTo_cons] using inductionHypothesis

/-! ## Recording -/

def Destination.recorded (destination : Destination σ) : Destination (List Delivery × σ) where
  name := destination.name
  upsert := fun batch state =>
    let reply := destination.upsert batch state.2
    { reply with state := (⟨batch, reply.answer⟩ :: state.1, reply.state) }

def Writer.recording (destination : Destination σ) (state : σ) (batchSize : Nat) :
    Writer (List Delivery × σ) :=
  .start destination.recorded ([], state) batchSize

def Progress.deliveries (progress : Progress (List Delivery × σ)) : List Delivery :=
  progress.state.1.reverse

def Progress.unrecorded (progress : Progress (List Delivery × σ)) : Progress σ :=
  { progress with state := progress.state.2 }

def Order.givesUp : Order → Bool
  | .giveUp .. => true
  | _ => false

def Outgoing.isGivenUp : Outgoing → Bool
  | .givenUp .. => true
  | _ => false

/-! ## Recording changes nothing -/

def Reply.map {α : Type} (part : σ → τ) (reply : Reply σ α) : Reply τ α :=
  { reply with state := part reply.state }

/-- A destination that replies like another one, whose state is a part of its own. -/
structure Destination.Over (destination : Destination σ) (base : Destination τ) (part : σ → τ) :
    Prop where
  name : destination.name = base.name
  upsert : ∀ batch state,
    (destination.upsert batch state).map part = base.upsert batch (part state)

def Progress.map (part : σ → τ) (progress : Progress σ) : Progress τ :=
  { progress with state := part progress.state }

theorem Progress.map_handle {destination : Destination σ} {base : Destination τ} {part : σ → τ}
    (isOver : destination.Over base part) (progress : Progress σ) (outgoing : Outgoing) :
    (progress.handle destination outgoing).map part =
      (progress.map part).handle base outgoing := by
  cases outgoing with
  | send batch => simp [handle, map, ← isOver.upsert, Reply.map, isOver.name]
  | givenUp => rfl
  | note => rfl

theorem Progress.map_handleAll {destination : Destination σ} {base : Destination τ} {part : σ → τ}
    (isOver : destination.Over base part) (progress : Progress σ) (outgoing : List Outgoing) :
    (progress.handleAll destination outgoing).map part =
      (progress.map part).handleAll base outgoing := by
  induction outgoing generalizing progress with
  | nil => rfl
  | cons first rest inductionHypothesis =>
      have step := progress.map_handle isOver first
      have restStep := inductionHypothesis (progress.handle destination first)
      rw [step] at restStep
      exact restStep

theorem Destination.recorded_over (destination : Destination σ) :
    destination.recorded.Over destination Prod.snd :=
  ⟨rfl, fun _ _ => rfl⟩

theorem Progress.unrecorded_handleAll (destination : Destination σ)
    (progress : Progress (List Delivery × σ)) (outgoing : List Outgoing) :
    (progress.handleAll destination.recorded outgoing).unrecorded =
      progress.unrecorded.handleAll destination outgoing :=
  progress.map_handleAll destination.recorded_over outgoing

theorem Writer.unrecorded_followAll (destination : Destination σ) (state : σ) (batchSize : Nat)
    (orders : List Order) :
    ((Writer.recording destination state batchSize).followAll orders).progress.unrecorded =
      ((Writer.start destination state batchSize).followAll orders).progress := by
  rw [Writer.followAll_eq, Writer.followAll_eq]
  exact Progress.unrecorded_handleAll destination _ _

theorem Writer.batches_followAll (destination : Destination σ) (state : σ) (batchSize : Nat)
    (orders : List Order) :
    ((Writer.recording destination state batchSize).followAll orders).progress.deliveries.map
        Delivery.batch =
      sent ((Buffers.ofSize batchSize).followAll orders).1 := by
  have logged := Progress.log_handleAll destination.recorded Delivery.batch (fun _ _ => rfl)
    (Writer.recording destination state batchSize).progress
    ((Buffers.ofSize batchSize).followAll orders).1
  have start : (Writer.recording destination state batchSize).progress.state.1 = [] := rfl
  rw [start, List.map_nil, List.append_nil] at logged
  rw [Writer.followAll_eq, Progress.deliveries, List.map_reverse]
  exact List.reverse_eq_iff.mpr logged

/-! ## The balance -/

/-- The account says what the record says, besides the documents that were given up. -/
structure Balanced (deliveries : List Delivery) (givenUp : Nat) (report : WriteReport) : Prop where
  batches : report.batches = deliveries.length
  failedBatches : report.failedBatches = deliveries.countP fun delivery => !delivery.succeeded
  failedDocuments : report.failedDocuments = givenUp + sumOf (deliveries.map Delivery.lost)
  totalDelivered : report.totalDelivered = sumOf (deliveries.map Delivery.taken)
  deliveredTo : ∀ collection, report.deliveredTo collection =
    sumOf ((deliveries.filter fun delivery => delivery.batch.collection = collection).map
      Delivery.taken)
  known : ∀ collection, report.delivered.contains collection =
    deliveries.any fun delivery => delivery.succeeded && delivery.batch.collection == collection

namespace Balanced

variable {deliveries : List Delivery} {givenUp : Nat} {report : WriteReport}

theorem initial : Balanced [] 0 {} := by
  constructor <;> intros <;> rfl

theorem oneMoreGivenUp (balanced : Balanced deliveries givenUp report) :
    Balanced deliveries (givenUp + 1) report.givenUp := by
  refine { balanced with failedDocuments := ?_ }
  have before := balanced.failedDocuments
  simp only [WriteReport.givenUp]
  omega

theorem taken (balanced : Balanced deliveries givenUp report) (batch : Batch) (stated : Nat) :
    Balanced (deliveries ++ [⟨batch, .ok stated⟩]) givenUp (report.taken batch stated) := by
  constructor
  case batches => simp [WriteReport.taken, balanced.batches]
  case failedBatches =>
      simp [WriteReport.taken, balanced.failedBatches, Delivery.succeeded]
  case failedDocuments =>
      simp [WriteReport.taken, balanced.failedDocuments, sumOf_append, sumOf, Delivery.lost,
        Delivery.taken, Nat.add_assoc]
  case totalDelivered =>
      have before := balanced.totalDelivered
      rw [WriteReport.totalDelivered] at before
      simp [WriteReport.totalDelivered, WriteReport.taken, KeyMap.total_add, before, sumOf_append,
        sumOf, Delivery.taken]
  case deliveredTo =>
      intro collection
      have before := balanced.deliveredTo collection
      rw [WriteReport.deliveredTo] at before
      simp only [WriteReport.deliveredTo, WriteReport.taken, KeyMap.get?_add]
      by_cases same : collection = batch.collection
      · subst same
        simp [before, sumOf_append, sumOf, Delivery.taken]
      · simp [before, same, Ne.symm same]
  case known =>
      intro collection
      have before := balanced.known collection
      simp only [WriteReport.taken, KeyMap.contains_add, before, List.any_append, List.any_cons,
        List.any_nil, Delivery.succeeded, Bool.true_and, Bool.or_false]
      rw [Bool.or_comm, BEq.comm (a := collection)]

theorem refused (balanced : Balanced deliveries givenUp report) (batch : Batch)
    (error : DeliveryError) :
    Balanced (deliveries ++ [⟨batch, .error error⟩]) givenUp (report.refused batch) := by
  constructor
  case batches => simp [WriteReport.refused, balanced.batches]
  case failedBatches =>
      simp [WriteReport.refused, balanced.failedBatches, Delivery.succeeded]
  case failedDocuments =>
      simp [WriteReport.refused, balanced.failedDocuments, sumOf_append, sumOf, Delivery.lost,
        Delivery.taken, Nat.add_assoc]
  case totalDelivered =>
      have before := balanced.totalDelivered
      rw [WriteReport.totalDelivered] at before
      simp [WriteReport.totalDelivered, WriteReport.refused, before, sumOf_append, sumOf,
        Delivery.taken]
  case deliveredTo =>
      intro collection
      have before := balanced.deliveredTo collection
      rw [WriteReport.deliveredTo] at before
      by_cases same : batch.collection = collection <;>
        simp [WriteReport.deliveredTo, WriteReport.refused, before, same, sumOf_append, sumOf,
          Delivery.taken]
  case known =>
      intro collection
      simp [WriteReport.refused, balanced.known collection, Delivery.succeeded]

theorem answered (balanced : Balanced deliveries givenUp report) (delivery : Delivery) :
    Balanced (deliveries ++ [delivery]) givenUp
      (report.answered delivery.batch delivery.answer) := by
  obtain ⟨batch, answer⟩ := delivery
  cases answer with
  | ok stated => exact balanced.taken batch stated
  | error error => exact balanced.refused batch error

theorem handleAll (destination : Destination σ) (progress : Progress (List Delivery × σ))
    (balanced : Balanced progress.deliveries givenUp progress.report)
    (outgoing : List Outgoing) :
    Balanced (progress.handleAll destination.recorded outgoing).deliveries
      (givenUp + outgoing.countP Outgoing.isGivenUp)
      (progress.handleAll destination.recorded outgoing).report := by
  induction outgoing generalizing progress givenUp with
  | nil => exact balanced
  | cons first rest inductionHypothesis =>
      rw [List.countP_cons]
      cases first with
      | send batch =>
          have logged : (progress.handle destination.recorded (.send batch)).deliveries =
              progress.deliveries ++
                [⟨batch, (destination.upsert batch progress.state.2).answer⟩] := by
            simp [Progress.deliveries, Progress.handle, Destination.recorded]
          have step : Balanced (progress.handle destination.recorded (.send batch)).deliveries
              givenUp (progress.handle destination.recorded (.send batch)).report :=
            logged ▸ balanced.answered _
          exact inductionHypothesis _ step
      | givenUp collection reason =>
          have counted := inductionHypothesis
            (progress.handle destination.recorded (.givenUp collection reason))
            balanced.oneMoreGivenUp
          rw [Nat.add_right_comm] at counted
          exact counted
      | note event =>
          exact inductionHypothesis
            (progress.handle destination.recorded (.note event)) balanced

/-! ## What a balanced account says -/

theorem conserves (balanced : Balanced deliveries givenUp report) :
    report.totalDelivered + report.failedDocuments =
      givenUp + sumOf ((deliveries.map Delivery.batch).map Batch.size) := by
  have parts := sumOf_taken_add_lost deliveries
  rw [balanced.totalDelivered, balanced.failedDocuments, ← parts]
  omega

theorem failedBatches_le (balanced : Balanced deliveries givenUp report)
    (nonempty : ∀ delivery ∈ deliveries, 0 < delivery.batch.size) :
    report.failedBatches ≤ report.failedDocuments := by
  have bound := countP_failed_le nonempty
  rw [balanced.failedBatches, balanced.failedDocuments]
  omega

theorem contains_iff (balanced : Balanced deliveries givenUp report) (collection : String) :
    report.delivered.contains collection ↔
      ∃ delivery ∈ deliveries, delivery.batch.collection = collection ∧ delivery.succeeded := by
  rw [balanced.known collection, List.any_eq_true]
  simp only [Bool.and_eq_true, beq_iff_eq, and_comm]

theorem deliveredTo_le (balanced : Balanced deliveries givenUp report) (collection : String) :
    report.deliveredTo collection ≤
      (sentTo collection ((deliveries.filter Delivery.succeeded).map Delivery.batch)).length := by
  rw [balanced.deliveredTo collection]
  exact sumOf_taken_le deliveries collection

theorem isClean_iff (balanced : Balanced deliveries givenUp report) :
    report.isClean ↔ givenUp = 0 ∧ ∀ delivery ∈ deliveries, delivery.isComplete := by
  rw [WriteReport.isClean, Bool.and_eq_true, beq_iff_eq, beq_iff_eq, balanced.failedBatches,
    balanced.failedDocuments, Nat.add_eq_zero_iff, sumOf_lost_eq_zero, List.countP_eq_zero]
  simp only [Delivery.isComplete_iff, Bool.not_eq_true', Bool.not_eq_false]
  constructor
  · rintro ⟨succeeded, noneGivenUp, noneLost⟩
    exact ⟨noneGivenUp, fun delivery member =>
      ⟨succeeded delivery member, noneLost delivery member⟩⟩
  · rintro ⟨noneGivenUp, complete⟩
    exact ⟨fun delivery member => (complete delivery member).1, noneGivenUp,
      fun delivery member => (complete delivery member).2⟩

end Balanced

/-! ## The account of a run -/

theorem Buffers.countP_followAll (buffers : Buffers) (orders : List Order) :
    (buffers.followAll orders).1.countP Outgoing.isGivenUp = orders.countP Order.givesUp := by
  induction orders generalizing buffers with
  | nil => rfl
  | cons order rest inductionHypothesis =>
      have noneSent : ∀ batches : List Batch,
          (batches.map Outgoing.send).countP Outgoing.isGivenUp = 0 := by
        intro batches
        simp [List.countP_map, Function.comp_def, Outgoing.isGivenUp]
      have step : (buffers.follow order).1.countP Outgoing.isGivenUp =
          [order].countP Order.givesUp := by
        cases order with
        | push collection document => exact noneSent _
        | flush => exact noneSent _
        | giveUp => rfl
        | note => rfl
      have split : order :: rest = [order] ++ rest := rfl
      rw [followAll, List.countP_append, step, inductionHypothesis, split, List.countP_append]

/-- The account of a writer balances against the record after every run. -/
theorem Writer.balanced_followAll (destination : Destination σ) (state : σ) (batchSize : Nat)
    (orders : List Order) :
    Balanced ((Writer.recording destination state batchSize).followAll orders).progress.deliveries
      (orders.countP Order.givesUp)
      ((Writer.start destination state batchSize).followAll orders).progress.report := by
  have unrecorded := Writer.unrecorded_followAll destination state batchSize orders
  have balanced := Balanced.handleAll destination
    (Writer.recording destination state batchSize).progress Balanced.initial
    ((Buffers.ofSize batchSize).followAll orders).1
  rw [Buffers.countP_followAll, Nat.zero_add] at balanced
  rw [← unrecorded, Writer.followAll_eq]
  exact balanced

/-- In every state that a writer reaches, each document that came was taken, lost or waits, and the
account agrees with what the destination answered.  The final account is clean just when nothing was
given up, all that came was sent, and all that was sent was stated to be taken. -/
theorem writer_account_balances (destination : Destination σ) (state : σ) (batchSize : Nat)
    (orders : List Order) :
    let writer := (Writer.start destination state batchSize).followAll orders
    let recording := (Writer.recording destination state batchSize).followAll orders
    let report := writer.progress.report
    let deliveries := recording.progress.deliveries
    (pushes orders).length + orders.countP Order.givesUp =
      report.totalDelivered + report.failedDocuments + writer.buffers.size ∧
    report.batches = deliveries.length ∧
    report.failedBatches = (deliveries.countP fun delivery => !delivery.succeeded) ∧
    report.failedBatches ≤ report.failedDocuments ∧
    (∀ collection, report.delivered.contains collection ↔
      ∃ delivery ∈ deliveries, delivery.batch.collection = collection ∧ delivery.succeeded) ∧
    (∀ collection, report.deliveredTo collection ≤
      (sentTo collection ((deliveries.filter Delivery.succeeded).map Delivery.batch)).length) ∧
    (writer.finish.report.isClean ↔
      (∀ order ∈ orders, ¬ order.givesUp) ∧
      (∀ collection, sentTo collection (recording.finish.deliveries.map Delivery.batch) =
        pushedTo collection orders) ∧
      ∀ delivery ∈ recording.finish.deliveries, delivery.isComplete) := by
  intro writer recording report deliveries
  have balanced : Balanced deliveries (orders.countP Order.givesUp) report :=
    Writer.balanced_followAll destination state batchSize orders
  have batches : deliveries.map Delivery.batch =
      sent ((Buffers.ofSize batchSize).followAll orders).1 :=
    Writer.batches_followAll destination state batchSize orders
  have nonempty : ∀ delivery ∈ deliveries, 0 < delivery.batch.size := by
    intro delivery member
    have sentBatch := List.mem_map_of_mem (f := Delivery.batch) member
    rw [batches] at sentBatch
    exact (Buffers.size_sent_followAll (Buffers.sound_ofSize batchSize) sentBatch).1
  refine ⟨?_, balanced.batches, balanced.failedBatches, balanced.failedBatches_le nonempty,
    balanced.contains_iff, balanced.deliveredTo_le, ?_⟩
  · have conserved := balanced.conserves
    have counted := (Buffers.sound_ofSize batchSize).size_followAll orders
    have noneBefore : (Buffers.ofSize batchSize).size = 0 := rfl
    have waiting : writer.buffers = ((Buffers.ofSize batchSize).followAll orders).2 := by
      simp only [writer, Writer.followAll_eq]
      rfl
    rw [batches] at conserved
    rw [waiting, conserved]
    omega
  · have finished : Balanced recording.finish.deliveries (orders.countP Order.givesUp)
        writer.finish.report := by
      have balancedEnd :=
        Writer.balanced_followAll destination state batchSize (orders ++ [.flush])
      rw [List.countP_append] at balancedEnd
      rw [Writer.finish_followAll, Writer.finish_followAll]
      exact balancedEnd
    have allSent : ∀ collection, sentTo collection
        (recording.finish.deliveries.map Delivery.batch) = pushedTo collection orders := by
      intro collection
      rw [Writer.finish_followAll, Writer.batches_followAll, Buffers.sentTo_flushed]
    rw [finished.isClean_iff, List.countP_eq_zero]
    exact ⟨fun clean => ⟨clean.1, allSent, clean.2⟩, fun clean => ⟨clean.1, clean.2.2⟩⟩

end CodeGraph
