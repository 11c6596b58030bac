import CodeGraph.Proofs.Buffers

/-!
# Chunks

Buffers that are flushed only at the end cut what came for a collection into chunks of one size:
the full ones leave on the way, and the flush sends the remainders.
-/

set_option autoImplicit false

namespace CodeGraph

/-- A list cut into chunks of one size, of which only the last may be shorter. -/
structure ChunksOf {α : Type} (size : Nat) (items : List α) (chunks : List (List α)) : Prop where
  joined : chunks.flatten = items
  full : ∀ chunk ∈ chunks.dropLast, chunk.length = size
  nonempty : ∀ chunk ∈ chunks, chunk ≠ []
  bounded : ∀ chunk ∈ chunks, chunk.length ≤ size

def remainder {α : Type} (size : Nat) (items : List α) : List α :=
  items.drop (size * (items.length / size))

section Chunks

variable {α : Type} {size : Nat} {items rest : List α} {chunks : List (List α)}

theorem length_flatten_of_full (full : ∀ chunk ∈ chunks, chunk.length = size) :
    chunks.flatten.length = size * chunks.length := by
  induction chunks with
  | nil => simp
  | cons first later inductionHypothesis =>
      have firstLength := full first (by simp)
      have laterLength := inductionHypothesis fun chunk member => full chunk (by simp [member])
      rw [List.flatten_cons, List.length_append, firstLength, laterLength, List.length_cons,
        Nat.mul_add, Nat.mul_one, Nat.add_comm]

/-- Full chunks with less than a chunk behind them leave the remainder. -/
theorem remainder_of_full (full : ∀ chunk ∈ chunks, chunk.length = size)
    (joined : chunks.flatten ++ rest = items) (short : rest.length < size) :
    remainder size items = rest := by
  have chunksLength := length_flatten_of_full full
  have quotient : items.length / size = chunks.length := by
    rw [← joined, List.length_append, chunksLength, Nat.add_comm,
      Nat.add_mul_div_left _ _ (by omega), Nat.div_eq_of_lt short, Nat.zero_add]
  rw [remainder, quotient, ← joined, ← chunksLength, List.drop_left]

theorem chunksOf_full_append (full : ∀ chunk ∈ chunks, chunk.length = size)
    (joined : chunks.flatten ++ rest = items) (short : rest.length < size) :
    ChunksOf size items (chunks ++ if rest.isEmpty then [] else [rest]) := by
  have positive : 0 < size := by omega
  have fullNonempty : ∀ chunk ∈ chunks, chunk ≠ [] := by
    intro chunk member isEmpty
    have length := full chunk member
    rw [isEmpty, List.length_nil] at length
    omega
  by_cases nothing : rest = []
  · rw [nothing, List.append_nil] at joined
    simp only [nothing, List.isEmpty_nil, if_true, List.append_nil]
    exact ⟨joined, fun chunk member => full chunk ((List.dropLast_sublist chunks).subset member),
      fullNonempty, fun chunk member => Nat.le_of_eq (full chunk member)⟩
  · -- the rest is the last chunk, so that the chunks before it are all but the last
    rw [if_neg (by simpa using nothing)]
    constructor
    case joined => simpa using joined
    case full => simpa using full
    case nonempty =>
      intro chunk member
      rcases List.mem_append.mp member with early | last
      · exact fullNonempty chunk early
      · rw [List.mem_singleton.mp last]
        exact nothing
    case bounded =>
      intro chunk member
      rcases List.mem_append.mp member with early | last
      · exact Nat.le_of_eq (full chunk early)
      · rw [List.mem_singleton.mp last]
        exact Nat.le_of_lt short

end Chunks

/-! ## Buffers that are flushed at the end -/

/-- The batch with the remainder of what orders queue for a collection, if there is one. -/
def lastBatch (size : Nat) (orders : List Order) (collection : String) : Option Batch :=
  if (remainder size (pushedTo collection orders)).isEmpty then none
  else some ⟨collection, remainder size (pushedTo collection orders)⟩

namespace Buffers

theorem sent_followAll_append_flush (buffers : Buffers) (orders : List Order) :
    sent (buffers.followAll (orders ++ [.flush])).1 =
      sent (buffers.followAll orders).1
        ++ (buffers.followAll orders).2.waiting.filterMap Buffer.batch? := by
  rw [followAll_append, sent_append, followAll_singleton, sent_flush]

section Unflushed

variable {batchSize : Nat} {orders : List Order} (unflushed : Order.flush ∉ orders)

include unflushed

theorem size_of_unflushed {batch : Batch}
    (member : batch ∈ sent ((ofSize batchSize).followAll orders).1) :
    batch.size = max batchSize 1 := by
  obtain ⟨_, bounded, short⟩ := size_sent_followAll (sound_ofSize batchSize) member
  have notShort : ¬ batch.size < max batchSize 1 := fun less => unflushed (short less)
  exact Nat.le_antisymm bounded (Nat.not_lt.mp notShort)

theorem length_chunk_of_unflushed {collection : String} :
    ∀ chunk ∈ chunksTo collection (sent ((ofSize batchSize).followAll orders).1),
      chunk.length = max batchSize 1 := by
  intro chunk member
  obtain ⟨batch, inCollection, isChunk⟩ := List.mem_map.mp member
  rw [← isChunk]
  exact size_of_unflushed unflushed (List.mem_filter.mp inCollection).1

theorem remainder_of_unflushed (collection : String) :
    remainder (max batchSize 1) (pushedTo collection orders) =
      waitingFor collection ((ofSize batchSize).followAll orders).2.waiting := by
  apply remainder_of_full (length_chunk_of_unflushed unflushed)
  · exact sentTo_followAll (sound_ofSize batchSize) orders collection
  · have notFull := ((sound_ofSize batchSize).followAll orders).notFull collection
    rwa [(sound_ofSize batchSize).limit_followAll] at notFull

theorem chunksOf_unflushed (collection : String) :
    ChunksOf (max batchSize 1) (pushedTo collection orders)
      (chunksTo collection (sent ((ofSize batchSize).followAll (orders ++ [.flush])).1)) := by
  have sound := (sound_ofSize batchSize).followAll orders
  rw [sent_followAll_append_flush, chunksTo_append, chunksTo_flushed sound.distinct]
  apply chunksOf_full_append (length_chunk_of_unflushed unflushed)
  · exact sentTo_followAll (sound_ofSize batchSize) orders collection
  · have notFull := sound.notFull collection
    rwa [(sound_ofSize batchSize).limit_followAll] at notFull

theorem flush_of_unflushed :
    ((ofSize batchSize).followAll orders).2.waiting.filterMap Buffer.batch? =
      ((pushes orders).map Prod.fst).eraseDups.filterMap
        (lastBatch (max batchSize 1) orders) := by
  rw [flushed_eq ((sound_ofSize batchSize).followAll orders).distinct, buffered_followAll]
  apply List.filterMap_congr
  intro collection _
  rw [lastBatch, remainder_of_unflushed unflushed, restOf]

end Unflushed

end Buffers

end CodeGraph
