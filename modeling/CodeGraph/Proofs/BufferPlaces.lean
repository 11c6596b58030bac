import CodeGraph.Proofs.Delivery

/-!
# The buffer of a collection

A writer has one buffer for each collection that documents came for, and a push finds it through
the index, which names its place and nothing else.
What stands in a buffer are the documents of its collection that came last, less than a batch of
them: those before were sent.  A flush leaves nothing to a second one.
-/

set_option autoImplicit false

namespace CodeGraph

/-! ## The place of a buffer -/

section Places

variable {waiting : List Buffer} {place : Nat} {buffer : Buffer}

theorem idxOf_buffered (distinct : (buffered waiting).Nodup)
    (stands : waiting[place]? = some buffer) :
    (buffered waiting).idxOf buffer.collection = place := by
  obtain ⟨inBounds, isBuffer⟩ := List.getElem?_eq_some_iff.mp stands
  have within : place < (buffered waiting).length := by simpa [buffered] using inBounds
  have named : (buffered waiting)[place] = buffer.collection := by simp [buffered, isBuffer]
  rw [← named]
  exact distinct.idxOf_getElem place within

end Places

section Push

variable {buffers : Buffers} (sound : buffers.Sound)

include sound

theorem Buffers.Sound.get?_of_stands {place : Nat} {buffer : Buffer}
    (stands : buffers.waiting[place]? = some buffer) :
    buffers.index.get? buffer.collection = some place :=
  (sound.indexed _ _).mpr (getElem?_buffered stands)

theorem Buffers.Sound.push_of_stands {place : Nat} {buffer : Buffer}
    (stands : buffers.waiting[place]? = some buffer) (document : Json.Value) :
    (buffers.push buffer.collection document).2 =
      { buffers with
        waiting := buffers.waiting.set place (buffer.add buffers.limit document).2 } := by
  have found : buffers.placeFor buffer.collection = (place, buffers) := by
    rw [Buffers.placeFor, sound.get?_of_stands stands]
  simp only [Buffers.push, found, Buffers.addAt_of_stands stands]

theorem Buffers.Sound.push_of_not_mem {collection : String}
    (absent : collection ∉ buffered buffers.waiting) (document : Json.Value) :
    (buffers.push collection document).2 =
      { buffers with
        waiting := buffers.waiting ++ [(Buffer.add buffers.limit document { collection }).2]
        index := buffers.index.insert collection buffers.waiting.length } := by
  have unknown := (sound.get?_eq_none_iff collection).mpr absent
  simp [Buffers.push, Buffers.placeFor, unknown, Buffers.addAt]

end Push

/-! ## A second flush -/

theorem filterMap_batch?_emptied (waiting : List Buffer) :
    (waiting.map Buffer.emptied).filterMap Buffer.batch? = [] := by
  simp [Buffer.emptied, Buffer.batch?]

theorem Buffers.follow_flush_flush (buffers : Buffers) :
    (buffers.follow .flush).2.follow .flush = ([], (buffers.follow .flush).2) := by
  have again : (buffers.waiting.map Buffer.emptied).map Buffer.emptied =
      buffers.waiting.map Buffer.emptied := by
    simp [Function.comp_def, Buffer.emptied]
  simp only [follow, filterMap_batch?_emptied, again, List.map_nil]

theorem Writer.follow_flush_flush {σ : Type} (writer : Writer σ) :
    (writer.follow .flush).follow .flush = writer.follow .flush := by
  have nothingLeft := writer.buffers.follow_flush_flush
  simp only [Writer.follow, nothingLeft]
  rfl

/-! ## The buffers of a run -/

section Run

variable {σ : Type}

theorem Writer.buffers_followAll (destination : Destination σ) (state : σ) (batchSize : Nat)
    (orders : List Order) :
    ((Writer.start destination state batchSize).followAll orders).buffers =
      ((Buffers.ofSize batchSize).followAll orders).2 := by
  rw [Writer.followAll_eq]
  rfl

/-- In every state that a writer reaches, each collection has one buffer, and the index has its
place and no other, so that a push finds it.  A buffer is not full, and holds what came for its
collection after all that was sent.  A flush empties all buffers, so that a second one changes
nothing. -/
theorem writer_buffers_are_bounded_and_unique (destination : Destination σ) (state : σ)
    (batchSize : Nat) (orders : List Order) :
    let writer := (Writer.start destination state batchSize).followAll orders
    let tracing := (Writer.tracing destination state batchSize).followAll orders
    let waiting := writer.buffers.waiting
    let index := writer.buffers.index
    let names := waiting.map Buffer.collection
    let limit := max batchSize 1
    names = ((pushes orders).map Prod.fst).eraseDups ∧
    (∀ collection place, index.get? collection = some place ↔ names[place]? = some collection) ∧
    (∀ place buffer, waiting[place]? = some buffer →
      index.get? buffer.collection = some place ∧
      names.idxOf buffer.collection = place ∧
      buffer.documents.size < limit ∧
      pushedTo buffer.collection orders =
        sentTo buffer.collection tracing.progress.calls ++ buffer.documents.toList ∧
      ∀ document, (writer.follow (.push buffer.collection document)).buffers.waiting =
        waiting.set place (buffer.add limit document).2) ∧
    (∀ collection ∉ names, ∀ document,
      (writer.follow (.push collection document)).buffers.waiting =
        waiting ++ [(Buffer.add limit document { collection }).2]) ∧
    (writer.follow .flush).buffers.waiting = names.map (⟨·, #[]⟩) ∧
    (writer.follow .flush).follow .flush = writer.follow .flush ∧
    ((tracing.follow .flush).follow .flush).progress.calls =
      (tracing.follow .flush).progress.calls := by
  intro writer tracing waiting index names limit
  have buffers : writer.buffers = ((Buffers.ofSize batchSize).followAll orders).2 :=
    Writer.buffers_followAll destination state batchSize orders
  have sound : writer.buffers.Sound :=
    buffers ▸ (Buffers.sound_ofSize batchSize).followAll orders
  have isLimit : writer.buffers.limit = limit := by
    rw [buffers, (Buffers.sound_ofSize batchSize).limit_followAll]
    rfl
  refine ⟨?_, sound.indexed, fun place buffer stands => ?_,
    fun collection absent document => ?_, ?_, writer.follow_flush_flush, ?_⟩
  · have inOrder := Buffers.buffered_followAll batchSize orders
    rwa [← buffers] at inOrder
  · have documents : waitingFor buffer.collection waiting = buffer.documents.toList :=
      waitingFor_of_mem sound.distinct (List.mem_of_getElem? stands)
    refine ⟨sound.get?_of_stands stands, idxOf_buffered sound.distinct stands, ?_, ?_,
      fun document => ?_⟩
    · have below := sound.notFull buffer.collection
      rwa [documents, isLimit] at below
    · have conserved :=
        Buffers.sentTo_followAll (Buffers.sound_ofSize batchSize) orders buffer.collection
      rw [← buffers, documents] at conserved
      rw [Writer.calls_followAll, conserved]
      rfl
    · rw [← isLimit]
      exact congrArg Buffers.waiting (sound.push_of_stands stands document)
  · rw [← isLimit]
    exact congrArg Buffers.waiting (sound.push_of_not_mem absent document)
  · simp [Writer.follow, Buffers.follow, names, waiting, Function.comp_def, Buffer.emptied]
  · rw [Writer.follow_flush_flush]

/-- A batch that is refused counts as sent, and its documents do not come back. -/
theorem writer_buffers_are_bounded_and_unique_after_refusal :
    let orders : List Order :=
      [.push "a" .null, .push "b" .null, .push "a" (.bool true), .push "a" (.bool false)]
    let refusing : Memory := { plan := [.reject "down"] }
    let writer := (Writer.start Memory.destination refusing 2).followAll orders
    let tracing := (Writer.tracing Memory.destination refusing 2).followAll orders
    writer.buffers.waiting = [⟨"a", #[.bool false]⟩, ⟨"b", #[.null]⟩] ∧
      writer.buffers.index.get? "b" = some 1 ∧
      pushedTo "a" orders = sentTo "a" tracing.progress.calls ++ [.bool false] ∧
      (writer.follow (.push "b" .null)).buffers.waiting =
        [⟨"a", #[.bool false]⟩, ⟨"b", #[]⟩] ∧
      (writer.follow (.push "c" .null)).buffers.waiting =
        [⟨"a", #[.bool false]⟩, ⟨"b", #[.null]⟩, ⟨"c", #[.null]⟩] := by
  -- the buffers follow from the orders alone, whatever is refused
  have buffers (orders : List Order) :=
    Writer.buffers_followAll Memory.destination { plan := [.reject "down"] } 2 orders
  obtain ⟨_, _, places, unknown, _⟩ := writer_buffers_are_bounded_and_unique Memory.destination
    { plan := [.reject "down"] } 2
    [.push "a" .null, .push "b" .null, .push "a" (.bool true), .push "a" (.bool false)]
  rw [buffers] at places unknown
  obtain ⟨_, _, _, conserved, _⟩ := places 0 ⟨"a", #[.bool false]⟩ rfl
  obtain ⟨indexed, _, _, _, pushed⟩ := places 1 ⟨"b", #[.null]⟩ rfl
  refine ⟨?_, ?_, conserved, pushed .null, unknown "c" (by decide) .null⟩
  · rw [buffers]
    rfl
  · rw [buffers]
    exact indexed

end Run

end CodeGraph
