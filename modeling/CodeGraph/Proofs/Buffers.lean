import CodeGraph.Batching
import CodeGraph.Proofs.KeyMap
import Mathlib.Data.List.Induction
import Mathlib.Data.List.Nodup

/-!
# What buffers keep and what they let go

Buffers are seen through two things: the names of their collections, and the documents that wait
for each collection.  A push and a flush are equations about these.  From them follows the law of a
whole run, `sentTo_followAll`: nothing is lost, doubled or reordered within a collection.
-/

set_option autoImplicit false

namespace CodeGraph

def Order.pushed? : Order → Option (String × Json.Value)
  | .push collection document => some (collection, document)
  | _ => none

def pushes (orders : List Order) : List (String × Json.Value) :=
  orders.filterMap Order.pushed?

def pushedTo (collection : String) (orders : List Order) : List Json.Value :=
  ((pushes orders).filter fun push => push.1 = collection).map Prod.snd

def sent (outgoing : List Outgoing) : List Batch :=
  outgoing.filterMap Outgoing.batch?

def chunksTo (collection : String) (batches : List Batch) : List (List Json.Value) :=
  (batches.filter fun batch => batch.collection = collection).map Batch.documents

/-- The documents in the batches for a collection. -/
def sentTo (collection : String) (batches : List Batch) : List Json.Value :=
  (chunksTo collection batches).flatten

def waitingFor (collection : String) : List Buffer → List Json.Value
  | [] => []
  | first :: later =>
      if first.collection = collection then first.documents.toList
      else waitingFor collection later

def buffered (waiting : List Buffer) : List String :=
  waiting.map Buffer.collection

/-- What waits for a collection, as a batch, if anything does. -/
def restOf (collection : String) (waiting : List Buffer) : Option Batch :=
  if (waitingFor collection waiting).isEmpty then none
  else some ⟨collection, waitingFor collection waiting⟩

theorem pushes_append (first second : List Order) :
    pushes (first ++ second) = pushes first ++ pushes second := by
  simp [pushes]

theorem pushedTo_append (collection : String) (first second : List Order) :
    pushedTo collection (first ++ second) =
      pushedTo collection first ++ pushedTo collection second := by
  simp [pushedTo, pushes_append]

theorem sent_append (first second : List Outgoing) :
    sent (first ++ second) = sent first ++ sent second := by
  simp [sent]

theorem sent_map_send (batches : List Batch) : sent (batches.map .send) = batches := by
  induction batches with
  | nil => rfl
  | cons first later inductionHypothesis =>
      simp only [sent, List.map_cons, List.filterMap_cons, Outgoing.batch?] at *
      rw [inductionHypothesis]

theorem chunksTo_append (collection : String) (first second : List Batch) :
    chunksTo collection (first ++ second) =
      chunksTo collection first ++ chunksTo collection second := by
  simp [chunksTo]

theorem chunksTo_cons (collection : String) (batch : Batch) (later : List Batch) :
    chunksTo collection (batch :: later) =
      if batch.collection = collection then batch.documents :: chunksTo collection later
      else chunksTo collection later := by
  by_cases same : batch.collection = collection <;> simp [chunksTo, same]

theorem sentTo_append (collection : String) (first second : List Batch) :
    sentTo collection (first ++ second) =
      sentTo collection first ++ sentTo collection second := by
  simp [sentTo, chunksTo_append]

theorem sentTo_cons (collection : String) (batch : Batch) (later : List Batch) :
    sentTo collection (batch :: later) =
      (if batch.collection = collection then batch.documents else []) ++
        sentTo collection later := by
  rw [sentTo, chunksTo_cons]
  split <;> rfl

theorem mem_pushedTo {collection : String} {document : Json.Value} {orders : List Order} :
    document ∈ pushedTo collection orders ↔ (collection, document) ∈ pushes orders := by
  simp [pushedTo]

theorem mem_sentTo {collection : String} {document : Json.Value} {batches : List Batch} :
    document ∈ sentTo collection batches ↔
      ∃ batch ∈ batches, batch.collection = collection ∧ document ∈ batch.documents := by
  simp [sentTo, chunksTo, and_assoc]

/-! ## One buffer among others -/

theorem Buffer.add_eq (limit : Nat) (document : Json.Value) (buffer : Buffer) :
    buffer.add limit document =
      if limit ≤ buffer.documents.size + 1 then
        (some ⟨buffer.collection, buffer.documents.toList ++ [document]⟩, buffer.emptied)
      else
        (none, { buffer with documents := buffer.documents.push document }) := by
  simp [Buffer.add, Buffer.batch?, Buffer.emptied]

theorem Buffer.collection_add (limit : Nat) (document : Json.Value) (buffer : Buffer) :
    (buffer.add limit document).2.collection = buffer.collection := by
  rw [add_eq]
  split <;> rfl

theorem Buffer.documents_add (limit : Nat) (document : Json.Value) (buffer : Buffer) :
    (buffer.add limit document).2.documents.toList =
      if limit ≤ buffer.documents.toList.length + 1 then []
      else buffer.documents.toList ++ [document] := by
  rw [add_eq, Array.length_toList]
  split <;> simp [emptied]

theorem Buffer.size_add (limit : Nat) (document : Json.Value) (buffer : Buffer) :
    sumOf ((buffer.add limit document).1.toList.map Batch.size)
        + (buffer.add limit document).2.documents.size =
      buffer.documents.size + 1 := by
  rw [add_eq]
  split <;> simp [Batch.size, emptied, sumOf]

section Places

variable {waiting : List Buffer} {place : Nat} {buffer filled : Buffer}

theorem waitingFor_eq_nil_of_not_mem {collection : String}
    (absent : collection ∉ buffered waiting) : waitingFor collection waiting = [] := by
  induction waiting with
  | nil => rfl
  | cons first later inductionHypothesis =>
      simp only [buffered, List.map_cons, List.mem_cons, not_or] at absent
      rw [waitingFor, if_neg (Ne.symm absent.1)]
      exact inductionHypothesis absent.2

theorem waitingFor_of_mem (distinct : (buffered waiting).Nodup) (member : buffer ∈ waiting) :
    waitingFor buffer.collection waiting = buffer.documents.toList := by
  induction waiting with
  | nil => cases member
  | cons first later inductionHypothesis =>
      obtain ⟨firstAbsent, laterDistinct⟩ := List.nodup_cons.mp distinct
      rw [waitingFor]
      rcases List.mem_cons.mp member with rfl | isLater
      · rw [if_pos rfl]
      · have different : first.collection ≠ buffer.collection := by
          intro same
          exact firstAbsent (same ▸ List.mem_map_of_mem isLater)
        rw [if_neg different]
        exact inductionHypothesis laterDistinct isLater

theorem waitingFor_append_empty (collection name : String) :
    waitingFor name (waiting ++ [({ collection } : Buffer)]) = waitingFor name waiting := by
  induction waiting with
  | nil => simp [waitingFor]
  | cons first later inductionHypothesis =>
      simp only [List.cons_append, waitingFor, inductionHypothesis]

theorem getElem?_buffered (stands : waiting[place]? = some buffer) :
    (buffered waiting)[place]? = some buffer.collection := by
  rw [buffered, List.getElem?_map, stands, Option.map_some]

theorem buffered_set (stands : waiting[place]? = some buffer)
    (sameName : filled.collection = buffer.collection) :
    buffered (waiting.set place filled) = buffered waiting := by
  induction waiting generalizing place with
  | nil => rfl
  | cons first later inductionHypothesis =>
      cases place with
      | zero =>
          obtain rfl : first = buffer := Option.some.inj stands
          simp [buffered, sameName]
      | succ behind =>
          exact congrArg (first.collection :: ·) (inductionHypothesis stands)

theorem waitingFor_set_self (distinct : (buffered waiting).Nodup)
    (stands : waiting[place]? = some buffer) (sameName : filled.collection = buffer.collection) :
    waitingFor buffer.collection (waiting.set place filled) = filled.documents.toList := by
  have within : place < waiting.length := (List.getElem?_eq_some_iff.mp stands).1
  rw [← sameName]
  apply waitingFor_of_mem
  · rwa [buffered_set stands sameName]
  · exact List.mem_set within filled

theorem waitingFor_set_of_ne {name : String} (different : name ≠ buffer.collection)
    (stands : waiting[place]? = some buffer) (sameName : filled.collection = buffer.collection) :
    waitingFor name (waiting.set place filled) = waitingFor name waiting := by
  induction waiting generalizing place with
  | nil => rfl
  | cons first later inductionHypothesis =>
      cases place with
      | zero =>
          obtain rfl : first = buffer := Option.some.inj stands
          simp only [List.set_cons_zero, waitingFor, sameName, if_neg (Ne.symm different)]
      | succ behind =>
          simp only [List.set_cons_succ, waitingFor]
          rw [inductionHypothesis stands]

theorem size_set (stands : waiting[place]? = some buffer) (filled : Buffer) :
    sumOf ((waiting.set place filled).map (·.documents.size)) + buffer.documents.size =
      sumOf (waiting.map (·.documents.size)) + filled.documents.size := by
  induction waiting generalizing place with
  | nil => cases stands
  | cons first later inductionHypothesis =>
      cases place with
      | zero =>
          obtain rfl : first = buffer := Option.some.inj stands
          simp only [List.set_cons_zero, List.map_cons, sumOf]
          omega
      | succ behind =>
          have laterSizes := inductionHypothesis stands
          simp only [List.set_cons_succ, List.map_cons, sumOf]
          omega

end Places

/-! ## A flush -/

theorem waitingFor_emptied (collection : String) (waiting : List Buffer) :
    waitingFor collection (waiting.map Buffer.emptied) = [] := by
  induction waiting with
  | nil => rfl
  | cons first later inductionHypothesis =>
      rw [List.map_cons, waitingFor, inductionHypothesis]
      split <;> rfl

theorem buffered_emptied (waiting : List Buffer) :
    buffered (waiting.map Buffer.emptied) = buffered waiting := by
  simp [buffered, Function.comp_def, Buffer.emptied]

/-- A flush sends what waits, one batch for each collection where something does. -/
theorem flushed_eq {waiting : List Buffer} (distinct : (buffered waiting).Nodup) :
    waiting.filterMap Buffer.batch? =
      (buffered waiting).filterMap fun collection => restOf collection waiting := by
  induction waiting with
  | nil => rfl
  | cons first later inductionHypothesis =>
      obtain ⟨firstAbsent, laterDistinct⟩ := List.nodup_cons.mp distinct
      have firstRest : restOf first.collection (first :: later) = first.batch? := by
        simp [restOf, waitingFor, Buffer.batch?]
      have laterRest : ∀ collection ∈ buffered later,
          restOf collection (first :: later) = restOf collection later := by
        intro collection member
        have different : first.collection ≠ collection := by
          intro same
          exact firstAbsent (same ▸ member)
        simp only [restOf, waitingFor, if_neg different]
      rw [List.filterMap_cons, inductionHypothesis laterDistinct]
      change _ = (first.collection :: buffered later).filterMap _
      rw [List.filterMap_cons, firstRest, List.filterMap_congr laterRest]

theorem chunksTo_flushed {waiting : List Buffer} (distinct : (buffered waiting).Nodup)
    (collection : String) :
    chunksTo collection (waiting.filterMap Buffer.batch?) =
      if (waitingFor collection waiting).isEmpty then [] else [waitingFor collection waiting] := by
  induction waiting with
  | nil => rfl
  | cons first later inductionHypothesis =>
      obtain ⟨firstAbsent, laterDistinct⟩ := List.nodup_cons.mp distinct
      have laterChunks := inductionHypothesis laterDistinct
      simp only [List.filterMap_cons, Buffer.batch?, waitingFor]
      by_cases same : first.collection = collection
      · have nothingLater : waitingFor collection later = [] :=
          waitingFor_eq_nil_of_not_mem (same ▸ firstAbsent)
        rw [nothingLater] at laterChunks
        by_cases empty : first.documents = #[]
        · simp [empty, same, laterChunks]
        · simp [empty, same, laterChunks, chunksTo_cons]
      · by_cases empty : first.documents = #[]
        · simp [empty, same, laterChunks]
        · simp [empty, same, laterChunks, chunksTo_cons]

/-! ## The index -/

/-- What every state that buffers can reach keeps: the index names the place of each buffer and no
other, and no buffer is full. -/
structure Buffers.Sound (buffers : Buffers) : Prop where
  indexed : ∀ collection place, buffers.index.get? collection = some place ↔
    (buffered buffers.waiting)[place]? = some collection
  notFull : ∀ collection, (waitingFor collection buffers.waiting).length < buffers.limit

namespace Buffers

theorem sound_ofSize (batchSize : Nat) : (ofSize batchSize).Sound where
  indexed := by simp [ofSize, buffered]
  notFull := fun _ => (ofSize batchSize).limit_pos

/-- Two buffers of one collection would have one place in the index. -/
theorem Sound.distinct {buffers : Buffers} (sound : buffers.Sound) :
    (buffered buffers.waiting).Nodup := by
  rw [List.nodup_iff_injective_getElem]
  intro first second same
  have namesFirst : (buffered buffers.waiting)[first.1]? =
      some (buffered buffers.waiting)[first.1] :=
    List.getElem?_eq_getElem first.2
  have namesSecond : (buffered buffers.waiting)[second.1]? =
      some (buffered buffers.waiting)[first.1] := by
    rw [List.getElem?_eq_getElem second.2]
    exact congrArg some same.symm
  have places := (sound.indexed _ _).mpr namesFirst
  rw [(sound.indexed _ _).mpr namesSecond] at places
  exact Fin.ext (Option.some.inj places).symm

theorem Sound.get?_eq_none_iff {buffers : Buffers} (sound : buffers.Sound) (collection : String) :
    buffers.index.get? collection = none ↔ collection ∉ buffered buffers.waiting := by
  rw [Option.eq_none_iff_forall_ne_some, List.mem_iff_getElem?, not_exists]
  exact forall_congr' fun place => not_congr (sound.indexed collection place)

theorem limit_placeFor (buffers : Buffers) (collection : String) :
    (buffers.placeFor collection).2.limit = buffers.limit := by
  rw [placeFor]
  split <;> rfl

theorem waitingFor_placeFor (buffers : Buffers) (collection name : String) :
    waitingFor name (buffers.placeFor collection).2.waiting = waitingFor name buffers.waiting := by
  rw [placeFor]
  split
  case h_1 => rfl
  case h_2 => exact waitingFor_append_empty collection name

theorem size_placeFor (buffers : Buffers) (collection : String) :
    (buffers.placeFor collection).2.size = buffers.size := by
  rw [placeFor]
  split
  case h_1 => rfl
  case h_2 => simp [size, sumOf_append, sumOf]

theorem Sound.buffered_placeFor {buffers : Buffers} (sound : buffers.Sound) (collection : String) :
    buffered (buffers.placeFor collection).2.waiting =
      if collection ∈ buffered buffers.waiting then buffered buffers.waiting
      else buffered buffers.waiting ++ [collection] := by
  have unknown := sound.get?_eq_none_iff collection
  rw [placeFor]
  split
  case h_1 place known =>
      have inBuffers : collection ∈ buffered buffers.waiting :=
        List.mem_iff_getElem?.mpr ⟨place, (sound.indexed collection place).mp known⟩
      rw [if_pos inBuffers]
  case h_2 new =>
      rw [if_neg (unknown.mp new)]
      simp [buffered]

theorem Sound.placeFor {buffers : Buffers} (sound : buffers.Sound) (collection : String) :
    (buffers.placeFor collection).2.Sound where
  indexed := by
    have unknown := sound.get?_eq_none_iff collection
    rw [Buffers.placeFor]
    split
    case h_1 => exact sound.indexed
    case h_2 new =>
      intro name place
      have names : buffered (buffers.waiting ++ [({ collection } : Buffer)]) =
          buffered buffers.waiting ++ [collection] := by simp [buffered]
      have many : buffers.waiting.length = (buffered buffers.waiting).length := by simp [buffered]
      simp only [KeyMap.get?_insert, names, many]
      by_cases same : name = collection
      · -- the name stands nowhere before the last place
        subst same
        rw [if_pos rfl, List.getElem?_append]
        split
        case isTrue within =>
          have elsewhere : (buffered buffers.waiting)[place]? ≠ some name :=
            fun stands => unknown.mp new (List.mem_of_getElem? stands)
          simp only [elsewhere, iff_false]
          intro isLast
          cases Option.some.inj isLast
          exact Nat.lt_irrefl _ within
        case isFalse beyond => grind
      · rw [if_neg same, sound.indexed, List.getElem?_append]
        split
        case isTrue => rfl
        case isFalse beyond => grind
  notFull := by
    intro name
    rw [waitingFor_placeFor, limit_placeFor]
    exact sound.notFull name

/-- A buffer stands where the index sends a push, and it is that of the collection. -/
theorem Sound.stands {buffers : Buffers} (sound : buffers.Sound) (collection : String) :
    ∃ buffer, (buffers.placeFor collection).2.waiting[(buffers.placeFor collection).1]? =
        some buffer ∧
      buffer.collection = collection ∧
      buffer.documents.toList = waitingFor collection buffers.waiting := by
  have named : ∃ buffer,
      (buffers.placeFor collection).2.waiting[(buffers.placeFor collection).1]? = some buffer ∧
        buffer.collection = collection := by
    rw [Buffers.placeFor]
    split
    case h_1 place known =>
      have inNames := (sound.indexed collection place).mp known
      rwa [buffered, List.getElem?_map, Option.map_eq_some_iff] at inNames
    case h_2 => exact ⟨{ collection }, by simp, rfl⟩
  obtain ⟨buffer, stands, rfl⟩ := named
  refine ⟨buffer, stands, rfl, ?_⟩
  rw [← waitingFor_placeFor buffers buffer.collection]
  exact (waitingFor_of_mem (sound.placeFor _).distinct (List.mem_of_getElem? stands)).symm

/-! ## A push -/

theorem addAt_of_stands {buffers : Buffers} {place : Nat} {buffer : Buffer}
    (stands : buffers.waiting[place]? = some buffer) (document : Json.Value) :
    buffers.addAt place document =
      ((buffer.add buffers.limit document).1,
        { buffers with
          waiting := buffers.waiting.set place (buffer.add buffers.limit document).2 }) := by
  simp only [addAt, stands]

section Push

variable {buffers : Buffers} (sound : buffers.Sound) (collection : String) (document : Json.Value)

include sound

/-- A push fills the buffer of the collection and changes no other. -/
theorem Sound.push_eq :
    ∃ buffer, (buffers.placeFor collection).2.waiting[(buffers.placeFor collection).1]? =
        some buffer ∧
      buffer.collection = collection ∧
      buffer.documents.toList = waitingFor collection buffers.waiting ∧
      buffers.push collection document =
        ((buffer.add buffers.limit document).1,
          { (buffers.placeFor collection).2 with
            waiting := (buffers.placeFor collection).2.waiting.set
              (buffers.placeFor collection).1 (buffer.add buffers.limit document).2 }) := by
  obtain ⟨buffer, stands, named, documents⟩ := sound.stands collection
  refine ⟨buffer, stands, named, documents, ?_⟩
  simp only [Buffers.push, addAt_of_stands stands, limit_placeFor]

theorem Sound.push_batch :
    (buffers.push collection document).1 =
      if buffers.limit ≤ (waitingFor collection buffers.waiting).length + 1 then
        some ⟨collection, waitingFor collection buffers.waiting ++ [document]⟩
      else none := by
  obtain ⟨buffer, _, named, documents, pushed⟩ := sound.push_eq collection document
  rw [pushed, Buffer.add_eq, ← documents, named, Array.length_toList]
  split <;> rfl

theorem Sound.waitingFor_push :
    waitingFor collection (buffers.push collection document).2.waiting =
      if buffers.limit ≤ (waitingFor collection buffers.waiting).length + 1 then []
      else waitingFor collection buffers.waiting ++ [document] := by
  obtain ⟨buffer, stands, rfl, documents, pushed⟩ := sound.push_eq collection document
  rw [pushed, ← documents, ← Buffer.documents_add]
  exact waitingFor_set_self (sound.placeFor _).distinct stands (Buffer.collection_add _ _ _)

theorem Sound.waitingFor_push_of_ne {other : String} (different : other ≠ collection) :
    waitingFor other (buffers.push collection document).2.waiting =
      waitingFor other buffers.waiting := by
  obtain ⟨buffer, stands, rfl, _, pushed⟩ := sound.push_eq collection document
  rw [pushed, ← waitingFor_placeFor buffers buffer.collection]
  exact waitingFor_set_of_ne different stands (Buffer.collection_add _ _ _)

theorem Sound.buffered_push :
    buffered (buffers.push collection document).2.waiting =
      if collection ∈ buffered buffers.waiting then buffered buffers.waiting
      else buffered buffers.waiting ++ [collection] := by
  obtain ⟨buffer, stands, rfl, _, pushed⟩ := sound.push_eq collection document
  rw [pushed, ← sound.buffered_placeFor]
  exact buffered_set stands (Buffer.collection_add _ _ _)

theorem Sound.limit_push : (buffers.push collection document).2.limit = buffers.limit := by
  obtain ⟨_, _, _, _, pushed⟩ := sound.push_eq collection document
  rw [pushed]
  exact limit_placeFor buffers collection

theorem Sound.size_push :
    sumOf ((buffers.push collection document).1.toList.map Batch.size)
        + (buffers.push collection document).2.size =
      buffers.size + 1 := by
  obtain ⟨buffer, stands, _, _, pushed⟩ := sound.push_eq collection document
  have filled := Buffer.size_add buffers.limit document buffer
  have others := size_set stands (buffer.add buffers.limit document).2
  have before := size_placeFor buffers collection
  rw [pushed]
  simp only [size] at *
  omega

theorem Sound.push : (buffers.push collection document).2.Sound where
  indexed := by
    obtain ⟨buffer, stands, rfl, _, pushed⟩ := sound.push_eq collection document
    rw [pushed]
    simp only [buffered_set stands (Buffer.collection_add _ _ _)]
    exact (sound.placeFor buffer.collection).indexed
  notFull := by
    intro name
    rw [sound.limit_push]
    by_cases same : name = collection
    · rw [same, sound.waitingFor_push]
      split
      case isTrue => exact buffers.limit_pos
      case isFalse notReached => simpa using notReached
    · rw [sound.waitingFor_push_of_ne _ _ same]
      exact sound.notFull name

end Push

/-! ## One order -/

theorem Sound.limit_follow {buffers : Buffers} (sound : buffers.Sound) (order : Order) :
    (buffers.follow order).2.limit = buffers.limit := by
  cases order with
  | push collection document => exact sound.limit_push collection document
  | flush => rfl
  | giveUp => rfl
  | note => rfl

theorem Sound.sent_push {buffers : Buffers} (sound : buffers.Sound) (collection : String)
    (document : Json.Value) :
    sent (buffers.follow (.push collection document)).1 =
      if buffers.limit ≤ (waitingFor collection buffers.waiting).length + 1 then
        [⟨collection, waitingFor collection buffers.waiting ++ [document]⟩]
      else [] := by
  simp only [Buffers.follow, sent_map_send, sound.push_batch]
  split <;> rfl

theorem sent_flush (buffers : Buffers) :
    sent (buffers.follow .flush).1 = buffers.waiting.filterMap Buffer.batch? := by
  simp only [follow, sent_map_send]

theorem Sound.buffered_follow {buffers : Buffers} (sound : buffers.Sound) (order : Order) :
    buffered (buffers.follow order).2.waiting =
      match order.pushed? with
      | some push =>
          if push.1 ∈ buffered buffers.waiting then buffered buffers.waiting
          else buffered buffers.waiting ++ [push.1]
      | none => buffered buffers.waiting := by
  cases order with
  | push collection document => exact sound.buffered_push collection document
  | flush => exact buffered_emptied buffers.waiting
  | giveUp => rfl
  | note => rfl

/-- Of each collection, what is sent and what waits afterwards is what waited before and what came.
-/
theorem Sound.conserves {buffers : Buffers} (sound : buffers.Sound) (order : Order)
    (collection : String) :
    sentTo collection (sent (buffers.follow order).1)
        ++ waitingFor collection (buffers.follow order).2.waiting =
      waitingFor collection buffers.waiting ++ pushedTo collection [order] := by
  cases order with
  | push name document =>
      have after : (buffers.follow (.push name document)).2 = (buffers.push name document).2 := rfl
      rw [sound.sent_push, after]
      by_cases same : collection = name
      · rw [same, sound.waitingFor_push]
        split <;> simp [sentTo, chunksTo, pushedTo, pushes, Order.pushed?]
      · rw [sound.waitingFor_push_of_ne _ _ same]
        split <;> simp [sentTo, chunksTo, pushedTo, pushes, Order.pushed?, Ne.symm same]
  | flush =>
      have after : (buffers.follow .flush).2.waiting = buffers.waiting.map Buffer.emptied := rfl
      rw [sent_flush, after, waitingFor_emptied, sentTo, chunksTo_flushed sound.distinct]
      split
      case isTrue nothing => simp_all [pushedTo, pushes, Order.pushed?]
      case isFalse => simp [pushedTo, pushes, Order.pushed?]
  | giveUp => exact (List.append_nil (waitingFor collection buffers.waiting)).symm
  | note => exact (List.append_nil (waitingFor collection buffers.waiting)).symm

theorem Sound.flush {buffers : Buffers} (sound : buffers.Sound) :
    (buffers.follow .flush).2.Sound where
  indexed := by
    simp only [Buffers.follow, buffered_emptied]
    exact sound.indexed
  notFull := by
    intro collection
    simp only [Buffers.follow, waitingFor_emptied]
    exact buffers.limit_pos

theorem Sound.follow {buffers : Buffers} (sound : buffers.Sound) (order : Order) :
    (buffers.follow order).2.Sound := by
  cases order with
  | push collection document => exact sound.push collection document
  | flush => exact sound.flush
  | giveUp => exact sound
  | note => exact sound

/-- No batch is empty or too large, and only a flush sends one that is not full. -/
theorem Sound.size_sent {buffers : Buffers} (sound : buffers.Sound) {order : Order}
    {batch : Batch} (member : batch ∈ sent (buffers.follow order).1) :
    0 < batch.size ∧ batch.size ≤ buffers.limit ∧
      (batch.size < buffers.limit → order = .flush) := by
  cases order with
  | push name document =>
      rw [sound.sent_push] at member
      split at member
      case isTrue reached =>
        have below := sound.notFull name
        rw [List.mem_singleton.mp member]
        simp only [Batch.size, List.length_append, List.length_singleton]
        refine ⟨by omega, by omega, ?_⟩
        intro short
        omega
      case isFalse => simp at member
  | flush =>
      rw [sent_flush, flushed_eq sound.distinct] at member
      obtain ⟨name, _, rest⟩ := List.mem_filterMap.mp member
      have below := sound.notFull name
      simp only [restOf] at rest
      split at rest
      case isTrue => simp at rest
      case isFalse something =>
        rw [← Option.some.inj rest]
        simp only [Batch.size]
        refine ⟨?_, by omega, fun _ => trivial⟩
        exact List.length_pos_iff.mpr (by simpa using something)
  | giveUp => simp [Buffers.follow, sent, Outgoing.batch?] at member
  | note => simp [Buffers.follow, sent, Outgoing.batch?] at member

/-! ## A run of orders -/

theorem followAll_append (buffers : Buffers) (first second : List Order) :
    buffers.followAll (first ++ second) =
      ((buffers.followAll first).1 ++ ((buffers.followAll first).2.followAll second).1,
        ((buffers.followAll first).2.followAll second).2) := by
  induction first generalizing buffers with
  | nil => rfl
  | cons order rest inductionHypothesis =>
      simp only [List.cons_append, followAll, inductionHypothesis, List.append_assoc]

theorem followAll_singleton (buffers : Buffers) (order : Order) :
    buffers.followAll [order] = buffers.follow order := by
  simp [followAll]

theorem Sound.limit_followAll {buffers : Buffers} (sound : buffers.Sound) (orders : List Order) :
    (buffers.followAll orders).2.limit = buffers.limit := by
  induction orders generalizing buffers with
  | nil => rfl
  | cons order rest inductionHypothesis =>
      rw [Buffers.followAll, inductionHypothesis (sound.follow order), sound.limit_follow]

theorem Sound.followAll {buffers : Buffers} (sound : buffers.Sound) (orders : List Order) :
    (buffers.followAll orders).2.Sound := by
  induction orders generalizing buffers with
  | nil => exact sound
  | cons order rest inductionHypothesis => exact inductionHypothesis (sound.follow order)

/-- Of each collection, what a run sends and what waits after it is what waited before and what
came. -/
theorem sentTo_followAll {buffers : Buffers} (sound : buffers.Sound) (orders : List Order)
    (collection : String) :
    sentTo collection (sent (buffers.followAll orders).1)
        ++ waitingFor collection (buffers.followAll orders).2.waiting =
      waitingFor collection buffers.waiting ++ pushedTo collection orders := by
  induction orders generalizing buffers with
  | nil => exact (List.append_nil (waitingFor collection buffers.waiting)).symm
  | cons order rest inductionHypothesis =>
      have restEquation := inductionHypothesis (sound.follow order)
      have orderEquation := sound.conserves order collection
      have split : order :: rest = [order] ++ rest := rfl
      rw [split, pushedTo_append, ← List.append_assoc, ← orderEquation, List.append_assoc,
        ← restEquation, ← split, Buffers.followAll, sent_append, sentTo_append,
        List.append_assoc]

theorem waitingFor_flushed (buffers : Buffers) (orders : List Order) (collection : String) :
    waitingFor collection (buffers.followAll (orders ++ [.flush])).2.waiting = [] := by
  rw [followAll_append, followAll_singleton]
  exact waitingFor_emptied collection _

/-- A run that ends with a flush has sent all that came. -/
theorem sentTo_flushed (batchSize : Nat) (orders : List Order) (collection : String) :
    sentTo collection (sent ((ofSize batchSize).followAll (orders ++ [.flush])).1) =
      pushedTo collection orders := by
  have conserved :=
    sentTo_followAll (sound_ofSize batchSize) (orders ++ [.flush]) collection
  rw [waitingFor_flushed, List.append_nil, pushedTo_append] at conserved
  have noneBefore : waitingFor collection (ofSize batchSize).waiting = [] := rfl
  have noneInFlush : pushedTo collection [.flush] = [] := rfl
  rw [conserved, noneBefore, noneInFlush, List.nil_append, List.append_nil]

theorem size_sent_followAll {buffers : Buffers} (sound : buffers.Sound) {orders : List Order}
    {batch : Batch} (member : batch ∈ sent (buffers.followAll orders).1) :
    0 < batch.size ∧ batch.size ≤ buffers.limit ∧
      (batch.size < buffers.limit → Order.flush ∈ orders) := by
  induction orders generalizing buffers with
  | nil => simp [followAll, sent] at member
  | cons order rest inductionHypothesis =>
      rw [followAll, sent_append] at member
      rcases List.mem_append.mp member with now | later
      · obtain ⟨positive, bounded, short⟩ := sound.size_sent now
        exact ⟨positive, bounded, fun less => List.mem_cons.mpr (Or.inl (short less).symm)⟩
      · obtain ⟨positive, bounded, short⟩ := inductionHypothesis (sound.follow order) later
        rw [sound.limit_follow] at bounded short
        exact ⟨positive, bounded, fun less => List.mem_cons_of_mem order (short less)⟩

/-! ## The number of documents -/

theorem size_flushed (waiting : List Buffer) :
    sumOf ((waiting.filterMap Buffer.batch?).map Batch.size) =
      sumOf (waiting.map (·.documents.size)) := by
  induction waiting with
  | nil => rfl
  | cons first later inductionHypothesis =>
      by_cases empty : first.documents = #[]
      · simp [Buffer.batch?, empty, sumOf, inductionHypothesis]
      · simp [Buffer.batch?, empty, sumOf, Batch.size, inductionHypothesis]

theorem size_emptied (waiting : List Buffer) :
    sumOf ((waiting.map Buffer.emptied).map (·.documents.size)) = 0 := by
  induction waiting with
  | nil => rfl
  | cons first later inductionHypothesis =>
      simp only [List.map_cons, sumOf, inductionHypothesis]
      rfl

theorem Sound.size_follow {buffers : Buffers} (sound : buffers.Sound) (order : Order) :
    sumOf ((sent (buffers.follow order).1).map Batch.size) + (buffers.follow order).2.size =
      buffers.size + (pushes [order]).length := by
  cases order with
  | push collection document =>
      have sentEquation : sent (buffers.follow (.push collection document)).1 =
          (buffers.push collection document).1.toList := sent_map_send _
      rw [sentEquation]
      exact sound.size_push collection document
  | flush =>
      rw [sent_flush, size_flushed]
      exact congrArg (buffers.size + ·) (size_emptied buffers.waiting)
  | giveUp => exact Nat.zero_add buffers.size
  | note => exact Nat.zero_add buffers.size

theorem Sound.size_followAll {buffers : Buffers} (sound : buffers.Sound) (orders : List Order) :
    sumOf ((sent (buffers.followAll orders).1).map Batch.size)
        + (buffers.followAll orders).2.size =
      buffers.size + (pushes orders).length := by
  induction orders generalizing buffers with
  | nil => exact Nat.zero_add buffers.size
  | cons order rest inductionHypothesis =>
      have orderEquation := sound.size_follow order
      have restEquation := inductionHypothesis (sound.follow order)
      have split : pushes (order :: rest) = pushes [order] ++ pushes rest :=
        pushes_append [order] rest
      rw [split, Buffers.followAll, sent_append, List.map_append, sumOf_append, List.length_append]
      simp only
      omega

/-- The buffers stand in the order in which their collections were first pushed to. -/
theorem buffered_followAll (batchSize : Nat) (orders : List Order) :
    buffered ((ofSize batchSize).followAll orders).2.waiting =
      ((pushes orders).map Prod.fst).eraseDups := by
  induction orders using List.reverseRecOn with
  | nil => rfl
  | append_singleton first order inductionHypothesis =>
      have sound := (sound_ofSize batchSize).followAll first
      rw [followAll_append, followAll_singleton, sound.buffered_follow, inductionHypothesis,
        pushes_append, List.map_append]
      cases pushed : order.pushed? with
      | none => simp [pushes, pushed]
      | some push =>
          have isLast : (pushes [order]).map Prod.fst = [push.1] := by simp [pushes, pushed]
          rw [isLast, List.eraseDups_append]
          simp only [List.mem_eraseDups]
          by_cases known : push.1 ∈ (pushes first).map Prod.fst
          · simp [known, List.removeAll]
          · simp [known, List.removeAll, List.eraseDups_cons]

end Buffers

end CodeGraph
