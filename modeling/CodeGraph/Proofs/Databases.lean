import CodeGraph.Proofs.Clearing
import CodeGraph.Session

/-!
# Databases and the store

The store is one database that can be trusted, and so is the store at a place on any disk.  What
else can be trusted does not differ from the store in what it answers, as long as no step fails
(`Database.Lawful.upsert` and its like).  Where one fails, a batch is filed whole or not at all, so
that a run leaves what some of its batches put there, in order: `Database.Lawful.finish_sublist`.
-/

set_option autoImplicit false

namespace CodeGraph

variable {α δ ν : Type}

/-! ## Two databases that can be trusted -/

theorem Store.collection_drop (store : Store) (name other : String) :
    (store.drop name).collection other =
      if other = name then .empty else store.collection other := by
  rw [collection, drop, KeyMap.get?_filterKeys]
  by_cases same : other = name <;> simp [same, collection]

theorem Store.collection_eq_empty {store : Store} {name : String}
    (unnamed : name ∉ store.collections.keys) : store.collection name = .empty := by
  have absent : store.collections.get? name = none := by
    simpa [KeyMap.mem_keys, KeyMap.contains] using unnamed
  rw [collection, absent]
  rfl

theorem Store.get?_perform_applyBatch (store : Store) (name : String)
    (entries : List (String × String)) (key : String) :
    ((store.perform (.applyBatch name entries)).collection name).get? key =
      (entries.reverse.lookup key).or ((store.collection name).get? key) := by
  rw [perform, collection_file, if_pos rfl, KeyMap.get?_putAll]

theorem World.storeAt_put (world : World ν) (place : String) (store : Store) :
    (world.put place store).storeAt place = store := by
  simp [storeAt, put, KeyMap.get?_insert]

/-- A database whose state has a store in it, from which it reads and in which it takes its
steps. -/
structure Database.Keeps (database : Database δ) (part : δ → Store) : Prop where
  failed : ∀ {step state fault after}, database.perform step state = (.error fault, after) →
    part after = part state
  taken : ∀ {step state after}, database.perform step state = (.ok (), after) →
    part after = (part state).perform step
  treeNames : ∀ state, database.treeNames state = (part state).collections.keys
  size : ∀ name state, database.size name state = (part state).count name
  find : ∀ name key state,
    database.find name key state = .ok (((part state).collection name).get? key)
  entries : ∀ name state,
    database.entries name state = .ok ((part state).collection name).entries

theorem Database.Keeps.lawful {database : Database δ} {part : δ → Store}
    (keeps : database.Keeps part) :
    database.Lawful fun name state => (part state).collection name where
  failed performed name := by rw [keeps.failed performed]
  opened performed other := by rw [keeps.taken performed]; rfl
  applied performed := by
    rw [keeps.taken performed]
    refine ⟨Store.get?_perform_applyBatch _ _ _, fun other different => ?_⟩
    rw [Store.perform, Store.collection_file, if_neg different]
  dropped performed := by
    rw [keeps.taken performed, Store.perform, Store.collection_drop, if_pos rfl]
    refine ⟨rfl, fun other different => ?_⟩
    rw [Store.collection_drop, if_neg different]
  flushed performed name := by rw [keeps.taken performed]; rfl
  named unnamed := Store.collection_eq_empty (by rwa [← keeps.treeNames])
  size := keeps.size
  find found := by
    rw [keeps.find] at found
    exact (Except.ok.inj found).symm
  entries found := by
    rw [keeps.entries] at found
    exact (Except.ok.inj found).symm

theorem Store.lawful : Store.database.Lawful fun name store => store.collection name := by
  have keeps : Store.database.Keeps id := {
    failed := fun performed => nomatch congrArg Prod.fst performed
    taken := fun performed => (congrArg Prod.snd performed).symm
    treeNames := fun _ => rfl
    size := fun _ _ => rfl
    find := fun _ _ _ => rfl
    entries := fun _ _ => rfl }
  exact keeps.lawful

/-- The store at a place can be trusted, whatever the disk refuses. -/
theorem World.lawful (disk : Disk ν) (place : String) :
    (World.database disk place).Lawful fun name world => (world.storeAt place).collection name := by
  apply Database.Keeps.lawful
  constructor
  case failed =>
    intro step world fault after performed
    simp only [database] at performed
    split at performed <;> cases performed
    rfl
  case taken =>
    intro step world after performed
    simp only [database] at performed
    split at performed <;> cases performed
    exact storeAt_put _ _ _
  case treeNames => exact fun _ => rfl
  case size => exact fun _ _ => rfl
  case find => exact fun _ _ _ => rfl
  case entries => exact fun _ _ => rfl

/-! ## Calls -/

def Store.HeldIn (store : Store) (holds : String → δ → KeyMap String) (state : δ) : Prop :=
  ∀ name, holds name state = store.collection name

/-- Where two stores differ in one collection only, what holds each collection as one of them does
holds one of them. -/
theorem Store.heldIn_of_either {holds : String → δ → KeyMap String} {store later : Store}
    {state : δ} (changed : String)
    (elsewhere : ∀ name, name ≠ changed → later.collection name = store.collection name)
    (either : ∀ name, holds name state = store.collection name ∨
      holds name state = later.collection name) :
    store.HeldIn holds state ∨ later.HeldIn holds state := by
  rcases either changed with isOld | isNew
  · refine Or.inl fun name => ?_
    by_cases same : name = changed
    · rw [same, isOld]
    · exact (either name).elim id fun isNew => isNew.trans (elsewhere name same)
  · refine Or.inr fun name => ?_
    by_cases same : name = changed
    · rw [same, isNew]
    · exact (either name).elim (fun isOld => isOld.trans (elsewhere name same).symm) id

/-- How a database replies that held what a store holds, where the store answers `expected` and is
`later` then: like the store, or that a step failed, when each tree is as before or as it should
be. -/
def Database.Agrees (holds : String → δ → KeyMap String) (store later : Store)
    (expected : Except DeliveryError α) (reply : Reply δ α) : Prop :=
  (reply.answer = expected ∧ later.HeldIn holds reply.state) ∨
    (∃ fault, reply.answer = .error (.storage fault)) ∧
      ∀ name, holds name reply.state = store.collection name ∨
        holds name reply.state = later.collection name

namespace Database.Lawful

variable {database : Database δ} {holds : String → δ → KeyMap String} {store current later : Store}
  {state : δ} (lawful : database.Lawful holds)

include lawful

theorem heldIn_of_ok (held : store.HeldIn holds state) {step : DatabaseStep} {after : δ}
    (performed : database.perform step state = (.ok (), after)) :
    (store.perform step).HeldIn holds after := by
  intro name
  cases step with
  | openTree => exact (lawful.opened performed name).trans (held name)
  | flush => exact (lawful.flushed performed name).trans (held name)
  | applyBatch changed entries =>
      obtain ⟨inside, outside⟩ := lawful.applied performed
      by_cases same : name = changed
      · subst same
        apply KeyMap.ext_get?
        intro key
        rw [inside, held, Store.get?_perform_applyBatch]
      · rw [outside name same, held, Store.perform, Store.collection_file, if_neg same]
  | dropTree changed =>
      obtain ⟨inside, outside⟩ := lawful.dropped performed
      rw [Store.perform, Store.collection_drop]
      split
      case isTrue same => rw [same, inside]
      case isFalse different => rw [outside name different, held]

theorem agrees_after {expected : Except DeliveryError α} {step : DatabaseStep}
    {next : δ → Reply δ α} (held : current.HeldIn holds state)
    (between : ∀ name, current.collection name = store.collection name ∨
      current.collection name = later.collection name)
    (follows : ∀ after, (current.perform step).HeldIn holds after →
      Agrees holds store later expected (next after)) :
    Agrees holds store later expected (database.after step state next) := by
  unfold Database.after
  cases performed : database.perform step state with
  | mk answer after =>
      cases answer with
      | ok => exact follows after (lawful.heldIn_of_ok held performed)
      | error fault =>
          refine Or.inr ⟨⟨fault, rfl⟩, fun name => ?_⟩
          rw [lawful.failed performed, held]
          exact between name

theorem upsert (held : store.HeldIn holds state) (batch : Batch) :
    Agrees holds store (Store.answer batch store).state (Store.answer batch store).answer
      (database.upsert batch state) := by
  rw [Store.answer_eq]
  refine lawful.agrees_after held (fun _ => Or.inl rfl) fun opened held => ?_
  cases filed? batch.documents with
  | none => exact Or.inl ⟨rfl, held⟩
  | some entries =>
      refine lawful.agrees_after held (fun _ => Or.inl rfl) fun applied held => ?_
      exact lawful.agrees_after held (fun _ => Or.inr rfl) fun _ held => Or.inl ⟨rfl, held⟩

theorem count (held : store.HeldIn holds state) (name : String) :
    Agrees holds store store (.ok (store.count name)) (database.count name state) := by
  refine lawful.agrees_after held (fun _ => Or.inl rfl) fun opened held => Or.inl ⟨?_, held⟩
  rw [lawful.size, held]
  rfl

theorem get (held : store.HeldIn holds state) (name key : String) :
    Agrees holds store store (store.get? name key) (database.get name key state) := by
  refine lawful.agrees_after held (fun _ => Or.inl rfl) fun opened held => ?_
  cases found : database.find name key opened with
  | error fault => exact Or.inr ⟨⟨fault, rfl⟩, fun other => Or.inl (held other)⟩
  | ok text? =>
      refine Or.inl ⟨?_, held⟩
      have isHeld : text? = (store.collection name).get? key :=
        (lawful.find found).trans (congrArg (·.get? key) (held name))
      rw [Store.get?, ← isHeld]
      cases text? with
      | none => rfl
      | some text =>
          simp only
          cases Json.parse text.toList <;> rfl

theorem keys (held : store.HeldIn holds state) (name : String) :
    Agrees holds store store (.ok (store.keys name)) (database.keys name state) := by
  refine lawful.agrees_after held (fun _ => Or.inl rfl) fun opened held => ?_
  cases found : database.entries name opened with
  | error fault =>
      exact Or.inr ⟨⟨fault, rfl⟩, fun other => Or.inl (held other)⟩
  | ok entries =>
      refine Or.inl ⟨?_, held⟩
      rw [lawful.entries found, held]
      rfl

/-- Trees are dropped one by one, and those that are not among the names are as they should be
already. -/
theorem agrees_dropAll {expected : Except DeliveryError α} {next : δ → Reply δ α}
    (held : current.HeldIn holds state)
    (between : ∀ name, current.collection name = store.collection name ∨
      current.collection name = store.clear.collection name)
    (follows : ∀ after, store.clear.HeldIn holds after →
      Agrees holds store store.clear expected (next after))
    (names : List String)
    (others : ∀ name ∉ names, current.collection name = store.clear.collection name) :
    Agrees holds store store.clear expected (database.dropAll next names state) := by
  induction names generalizing state current with
  | nil =>
      refine follows state fun name => ?_
      rw [held, others name List.not_mem_nil]
  | cons first rest inductionHypothesis =>
      rw [Database.dropAll]
      split
      case isTrue lasts =>
        have stays : store.clear.collection first = store.collection first :=
          (store.collection_clear first).trans (if_pos lasts)
        refine inductionHypothesis held between fun name notLater => ?_
        by_cases same : name = first
        · rw [same, stays]
          exact (between first).elim id fun isCleared => isCleared.trans stays
        · exact others name (by simp [same, notLater])
      case isFalse removable =>
        have removed : store.clear.collection first = .empty :=
          (store.collection_clear first).trans (if_neg removable)
        refine lawful.agrees_after held between fun after dropped => ?_
        refine inductionHypothesis dropped (fun name => ?_) fun name notLater => ?_
        all_goals rw [Store.perform, Store.collection_drop]
        · split
          case isTrue same => exact Or.inr (same ▸ removed.symm)
          case isFalse => exact between name
        · split
          case isTrue same => exact same ▸ removed.symm
          case isFalse different => exact others name (by simp [different, notLater])

theorem clear (held : store.HeldIn holds state) :
    Agrees holds store store.clear (.ok ()) (database.clear state) := by
  refine lawful.agrees_dropAll held (fun _ => Or.inl rfl) (fun emptied held => ?_) _
    fun name unnamed => ?_
  · exact lawful.agrees_after held (fun _ => Or.inr rfl) fun _ held => Or.inl ⟨rfl, held⟩
  · have isEmpty : store.collection name = .empty := by rw [← held, lawful.named unnamed]
    rw [Store.collection_clear, isEmpty, ite_self]

/-! ## Runs -/

/-- A batch is filed whole or not at all. -/
theorem heldIn_upsert (held : store.HeldIn holds state) (batch : Batch) :
    store.HeldIn holds (database.upsert batch state).state ∨
      batch.Keyed ∧ (store.file batch.collection (batch.documents.map filed)).HeldIn holds
        (database.upsert batch state).state := by
  have agrees := lawful.upsert held batch
  cases keyed : batch.isKeyed with
  | false =>
      rw [Store.answer_of_keyless keyed] at agrees
      rcases agrees with ⟨_, held⟩ | ⟨_, unchanged⟩
      · exact Or.inl held
      · exact Or.inl fun name => (unchanged name).elim id id
  | true =>
      have hasKeys := Batch.isKeyed_iff.mp keyed
      rw [Store.answer_of_keyed hasKeys] at agrees
      rcases agrees with ⟨_, held⟩ | ⟨_, either⟩
      · exact Or.inr ⟨hasKeys, held⟩
      · refine (Store.heldIn_of_either batch.collection (fun name different => ?_) either).imp_right
          fun held => ⟨hasKeys, held⟩
        rw [Store.collection_file, if_neg different]

theorem handleAll_sublist {progress : Progress δ} (held : store.HeldIn holds progress.state)
    (outgoing : List Outgoing) :
    ∃ filed : List Batch, filed.Sublist (sent outgoing) ∧ (∀ batch ∈ filed, batch.Keyed) ∧
      (store.fileAll filed).HeldIn holds
        (progress.handleAll database.destination outgoing).state := by
  induction outgoing generalizing progress store with
  | nil => exact ⟨[], List.Sublist.refl _, List.forall_mem_nil _, held⟩
  | cons first later inductionHypothesis =>
      cases first with
      | givenUp => exact inductionHypothesis held
      | note => exact inductionHypothesis held
      | send batch =>
          let next := progress.handle database.destination (.send batch)
          rcases lawful.heldIn_upsert held batch with unchanged | ⟨keyed, changed⟩
          · obtain ⟨filed, among, allKeyed, heldAfter⟩ :=
              @inductionHypothesis store next unchanged
            exact ⟨filed, among.cons batch, allKeyed, heldAfter⟩
          · obtain ⟨filed, among, allKeyed, heldAfter⟩ := @inductionHypothesis _ next changed
            exact ⟨batch :: filed, among.cons_cons batch,
              List.forall_mem_cons.mpr ⟨keyed, allKeyed⟩, heldAfter⟩

/-- Whatever fails, a run leaves what some of its batches put there, in the order in which they were
sent. -/
theorem finish_sublist (held : store.HeldIn holds state) (batchSize : Nat) (orders : List Order) :
    ∃ filed : List Batch,
      filed.Sublist (sent ((Buffers.ofSize batchSize).followAll (orders ++ [.flush])).1) ∧
      (∀ batch ∈ filed, batch.Keyed) ∧
      (store.fileAll filed).HeldIn holds
        ((Writer.start database.destination state batchSize).followAll orders).finish.state := by
  rw [Writer.finish_followAll, Writer.followAll_eq]
  exact lawful.handleAll_sublist held _

section Reliable

variable (reliable : ∀ step state, (database.perform step state).1 = .ok ())

include reliable

omit lawful in
theorem answer_upsert_ne_storage (batch : Batch) (state : δ) (fault : StoreFault) :
    (database.upsert batch state).answer ≠ .error (.storage fault) := by
  have passes : ∀ {β : Type} (step : DatabaseStep) (state : δ) (next : δ → Reply δ β),
      database.after step state next = next (database.perform step state).2 := by
    intro β step state next
    have succeeds := reliable step state
    unfold Database.after
    cases performed : database.perform step state with
    | mk answer after =>
        rw [performed] at succeeds
        cases answer with
        | ok => rfl
        | error => cases succeeds
  rw [Database.upsert, passes]
  cases filed? batch.documents with
  | none =>
      intro failed
      cases failed
  | some entries =>
      simp only [passes]
      intro failed
      cases failed

theorem handleAll_of_reliable {progress : Progress δ} {expected : Progress Store}
    (held : expected.state.HeldIn holds progress.state)
    (sameReport : progress.report = expected.report) (outgoing : List Outgoing) :
    let reached := progress.handleAll database.destination outgoing
    let reachedStore := expected.handleAll Store.destination outgoing
    reached.report = reachedStore.report ∧ reachedStore.state.HeldIn holds reached.state := by
  induction outgoing generalizing progress expected with
  | nil => exact ⟨sameReport, held⟩
  | cons first later inductionHypothesis =>
      cases first with
      | note => exact inductionHypothesis held sameReport
      | givenUp => exact inductionHypothesis held (congrArg WriteReport.givenUp sameReport)
      | send batch =>
          rcases lawful.upsert held batch with ⟨sameAnswer, heldAfter⟩ | ⟨⟨fault, failed⟩, _⟩
          · have sameNext := congrArg₂ (WriteReport.answered · batch ·) sameReport sameAnswer
            exact @inductionHypothesis (progress.handle database.destination (.send batch))
              (expected.handle Store.destination (.send batch)) heldAfter sameNext
          · exact absurd failed (answer_upsert_ne_storage reliable batch _ fault)

/-- As long as no step fails, a run cannot tell a database that can be trusted from the store. -/
theorem finish_of_reliable (held : store.HeldIn holds state) (batchSize : Nat)
    (orders : List Order) :
    let run := ((Writer.start database.destination state batchSize).followAll orders).finish
    let expected := ((Writer.start Store.destination store batchSize).followAll orders).finish
    run.report = expected.report ∧ expected.state.HeldIn holds run.state := by
  rw [Writer.finish_followAll, Writer.finish_followAll, Writer.followAll_eq, Writer.followAll_eq]
  exact lawful.handleAll_of_reliable reliable held rfl _

end Reliable

end Database.Lawful

end CodeGraph
