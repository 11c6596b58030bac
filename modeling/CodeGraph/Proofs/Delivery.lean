import CodeGraph.Memory
import CodeGraph.Proofs.Chunks
import CodeGraph.Writer

/-!
# What reaches a destination

The batches that a destination is sent are observed by tracing it.  They follow from the orders
alone: `writer_delivers_exactly_once` says which they are, whatever the destination answers.
-/

set_option autoImplicit false

namespace CodeGraph

variable {σ : Type}

def Writer.tracing (destination : Destination σ) (state : σ) (batchSize : Nat) :
    Writer (List Batch × σ) :=
  .start destination.traced ([], state) batchSize

def Progress.calls (progress : Progress (List Batch × σ)) : List Batch :=
  progress.state.1.reverse

/-! ## A writer and its buffers -/

theorem Progress.handleAll_append (destination : Destination σ) (progress : Progress σ)
    (first second : List Outgoing) :
    progress.handleAll destination (first ++ second) =
      (progress.handleAll destination first).handleAll destination second := by
  simp [handleAll]

/-- A writer follows orders as its buffers do, and hands on what leaves them. -/
theorem Writer.followAll_eq (writer : Writer σ) (orders : List Order) :
    writer.followAll orders =
      { writer with
        buffers := (writer.buffers.followAll orders).2
        progress :=
          writer.progress.handleAll writer.destination (writer.buffers.followAll orders).1 } := by
  induction orders generalizing writer with
  | nil => rfl
  | cons order rest inductionHypothesis =>
      have step : writer.followAll (order :: rest) = (writer.follow order).followAll rest := rfl
      rw [step, inductionHypothesis]
      simp only [Writer.follow, Buffers.followAll, Progress.handleAll_append]

theorem Writer.finish_followAll (writer : Writer σ) (orders : List Order) :
    (writer.followAll orders).finish = (writer.followAll (orders ++ [.flush])).progress := by
  simp [Writer.finish, Writer.followAll]

theorem Progress.log_handleAll {ω : Type} (destination : Destination (List ω × σ))
    (seen : ω → Batch)
    (logs : ∀ batch state,
      (destination.upsert batch state).state.1.map seen = batch :: state.1.map seen)
    (progress : Progress (List ω × σ)) (outgoing : List Outgoing) :
    (progress.handleAll destination outgoing).state.1.map seen =
      (sent outgoing).reverse ++ progress.state.1.map seen := by
  induction outgoing generalizing progress with
  | nil => rfl
  | cons first rest inductionHypothesis =>
      have step : progress.handleAll destination (first :: rest) =
          (progress.handle destination first).handleAll destination rest := rfl
      rw [step, inductionHypothesis]
      cases first with
      | send batch =>
          have head : sent (.send batch :: rest) = batch :: sent rest := rfl
          have logged : (progress.handle destination (.send batch)).state.1.map seen =
              batch :: progress.state.1.map seen := logs batch progress.state
          rw [head, logged]
          simp
      | givenUp => rfl
      | note => rfl

theorem Progress.calls_handleAll (destination : Destination σ)
    (progress : Progress (List Batch × σ)) (outgoing : List Outgoing) :
    (progress.handleAll destination.traced outgoing).calls = progress.calls ++ sent outgoing := by
  have logged := Progress.log_handleAll destination.traced id
    (fun _ _ => by simp [Destination.traced]) progress outgoing
  simp only [List.map_id] at logged
  simp [Progress.calls, logged]

theorem Writer.calls_followAll (destination : Destination σ) (state : σ) (batchSize : Nat)
    (orders : List Order) :
    ((Writer.tracing destination state batchSize).followAll orders).progress.calls =
      sent ((Buffers.ofSize batchSize).followAll orders).1 := by
  rw [Writer.followAll_eq]
  exact Progress.calls_handleAll destination _ _

theorem Writer.calls_finish (destination : Destination σ) (state : σ) (batchSize : Nat)
    (orders : List Order) :
    ((Writer.tracing destination state batchSize).followAll orders).finish.calls =
      sent ((Buffers.ofSize batchSize).followAll (orders ++ [.flush])).1 := by
  rw [Writer.finish_followAll, Writer.calls_followAll]

theorem flush_not_mem_pushes (pushed : List (String × Json.Value)) :
    Order.flush ∉ pushed.map fun push => Order.push push.1 push.2 := by
  simp

theorem pushes_map_push (pushed : List (String × Json.Value)) :
    pushes (pushed.map fun push => Order.push push.1 push.2) = pushed := by
  simp [pushes, Order.pushed?, Function.comp_def]

/-- A destination is sent every document exactly once and in order, whatever it answers.  Documents
that are pushed one after the other arrive in chunks of the batch size, and the end of the run sends
the remainders in the order in which the collections came first.  Flushes in between only allow
smaller batches. -/
theorem writer_delivers_exactly_once {τ : Type} (destination : Destination σ) (state : σ)
    (other : Destination τ) (otherState : τ) (batchSize : Nat) :
    (∀ pushed : List (String × Json.Value),
      let orders := pushed.map fun push => Order.push push.1 push.2
      let writer := (Writer.tracing destination state batchSize).followAll orders
      (∀ collection, ChunksOf (max batchSize 1) (pushedTo collection orders)
        (chunksTo collection writer.finish.calls)) ∧
      (∀ batch ∈ writer.progress.calls, batch.size = max batchSize 1) ∧
      writer.finish.calls = writer.progress.calls ++
        (pushed.map Prod.fst).eraseDups.filterMap (lastBatch (max batchSize 1) orders)) ∧
    (∀ orders : List Order,
      let writer := (Writer.tracing destination state batchSize).followAll orders
      writer.finish.calls =
        ((Writer.tracing other otherState batchSize).followAll orders).finish.calls ∧
      (∀ collection, sentTo collection writer.finish.calls = pushedTo collection orders) ∧
      (∀ batch ∈ writer.finish.calls, 0 < batch.size ∧ batch.size ≤ max batchSize 1) ∧
      ∀ order, ∃ later, (writer.follow order).progress.calls = writer.progress.calls ++ later ∧
        ∀ batch ∈ later, batch.size < max batchSize 1 → order = .flush) := by
  constructor
  · intro pushed orders writer
    have unflushed : Order.flush ∉ orders := flush_not_mem_pushes pushed
    refine ⟨?_, ?_, ?_⟩
    · intro collection
      rw [Writer.calls_finish]
      exact Buffers.chunksOf_unflushed unflushed collection
    · intro batch member
      rw [Writer.calls_followAll] at member
      exact Buffers.size_of_unflushed unflushed member
    · rw [Writer.calls_finish, Writer.calls_followAll, Buffers.sent_followAll_append_flush,
        Buffers.flush_of_unflushed unflushed, pushes_map_push]
  · intro orders writer
    have sound := Buffers.sound_ofSize batchSize
    refine ⟨?_, ?_, ?_, ?_⟩
    · rw [Writer.calls_finish, Writer.calls_finish]
    · intro collection
      rw [Writer.calls_finish, Buffers.sentTo_flushed]
    · intro batch member
      rw [Writer.calls_finish] at member
      obtain ⟨positive, bounded, _⟩ := Buffers.size_sent_followAll sound member
      exact ⟨positive, bounded⟩
    · intro order
      -- one more order is one more step of the buffers, which stay sound
      let before := (Buffers.ofSize batchSize).followAll orders
      refine ⟨sent (before.2.follow order).1, ?_, ?_⟩
      · have follow : writer.follow order =
            (Writer.tracing destination state batchSize).followAll (orders ++ [order]) := by
          simp [writer, Writer.followAll]
        rw [follow, Writer.calls_followAll, Writer.calls_followAll, Buffers.followAll_append,
          sent_append, Buffers.followAll_singleton]
      · intro batch member short
        have limit : before.2.limit = max batchSize 1 := sound.limit_followAll orders
        obtain ⟨_, _, onlyFlush⟩ := (sound.followAll orders).size_sent member
        exact onlyFlush (limit ▸ short)

/-- Three documents for one collection and one for another between them, in batches of two, to a
destination that refuses the first batch. -/
theorem writer_delivers_exactly_once_interleaved :
    let pushed : List (String × Json.Value) :=
      [("a", .null), ("b", .null), ("a", .bool true), ("a", .bool false)]
    let orders := pushed.map fun push => Order.push push.1 push.2
    let refusing : Memory := { plan := [.reject "down"] }
    let writer := (Writer.tracing Memory.destination refusing 2).followAll orders
    writer.progress.calls = [⟨"a", [.null, .bool true]⟩] ∧
      (∀ batch ∈ writer.progress.calls, batch.size = 2) ∧
      writer.finish.calls =
        [⟨"a", [.null, .bool true]⟩, ⟨"a", [.bool false]⟩, ⟨"b", [.null]⟩] ∧
      ChunksOf 2 [.null, .bool true, .bool false] (chunksTo "a" writer.finish.calls) := by
  intro pushed orders refusing writer
  obtain ⟨chunks, full, _⟩ :=
    (writer_delivers_exactly_once Memory.destination refusing Memory.destination {} 2).1 pushed
  have calls : writer.progress.calls = [⟨"a", [.null, .bool true]⟩] :=
    (Writer.calls_followAll Memory.destination refusing 2 orders).trans rfl
  have allCalls : writer.finish.calls =
      [⟨"a", [.null, .bool true]⟩, ⟨"a", [.bool false]⟩, ⟨"b", [.null]⟩] :=
    (Writer.calls_finish Memory.destination refusing 2 orders).trans rfl
  exact ⟨calls, full, allCalls, chunks "a"⟩

end CodeGraph
