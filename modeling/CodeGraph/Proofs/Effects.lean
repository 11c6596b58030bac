import CodeGraph.Proofs.Observation

/-!
# Nothing is written before all is ready

The record of a session grows by the effects of the steps towards its destinations, and then, only
if every step succeeded, by requests that carry documents.  A local store is not changed until then
either.  `Surroundings.Keeps` says of an invariant that no effect of a kind breaks it; every step of
a session has a lemma about it, and the lists of steps and of batches have theirs by induction.
`Adds`, by what kind of effects a record grew, is such an invariant.
-/

set_option autoImplicit false

namespace CodeGraph

open CommandLine (Command WriteOptions GraphTarget SearchTarget)
open Http (Request)

variable {ν σ : Type}

/-! ## Kinds of effects -/

def Http.Request.Imports (request : Request) : Prop :=
  ∃ batch : Batch, (∃ connection : Arango.Connection, request = connection.importRequest batch) ∨
    ∃ connection : Typesense.Connection, request = connection.importRequest batch

namespace Effect

def isExchange : Effect → Bool
  | exchange _ => true
  | _ => false

def Imports : Effect → Prop
  | opening _ => False
  | exchange request => request.Imports
  | writing _ _ => True

end Effect

def SetupStep.effect : SetupStep → Effect
  | opening path => .opening path
  | version request => .exchange request
  | listing request => .exchange request
  | creation request => .exchange request

def Http.Body.isListed : Http.Body → Bool
  | json (.array _) => true
  | plain _ => true
  | _ => false

theorem Http.Request.Imports.isListed {request : Request} (imports : request.Imports) :
    request.body.isListed = true := by
  obtain ⟨batch, ⟨connection, rfl⟩ | ⟨connection, rfl⟩⟩ := imports <;> rfl

theorem Arango.Connection.not_imports_of_creation {connection : Connection} {graph : String}
    {request : Request} (member : request ∈ (connection.creations graph).map Creation.request) :
    ¬ request.Imports := by
  intro imports
  have listed := imports.isListed
  obtain ⟨creation, isCreation, rfl⟩ := List.mem_map.mp member
  -- what describes an object to create is a JSON object
  simp only [creations, List.mem_append, List.mem_cons, List.mem_map, List.not_mem_nil,
    or_false] at isCreation
  obtain ((rfl | ⟨nodeClass, _, rfl⟩) | ⟨edgeClass, _, rfl⟩) | rfl := isCreation <;> cases listed

theorem SetupStep.not_imports {options : WriteOptions} {entry : String} {reach step : SetupStep}
    {creations : List Request} (member : step ∈ options.setup entry reach creations)
    (reaches : ¬ reach.effect.Imports) (creates : ∀ request ∈ creations, ¬ request.Imports) :
    ¬ step.effect.Imports := by
  rcases WriteOptions.mem_setup member with ⟨_, _, rfl⟩ | ⟨_, rfl | ⟨request, isCreation, rfl⟩⟩
  · exact id
  · exact reaches
  · exact creates request isCreation

theorem CommandLine.Command.not_imports_of_setup {command : Command} {step : SetupStep}
    (member : step ∈ command.setup) : ¬ step.effect.Imports := by
  cases command with
  | inspect => cases member
  | write options graph search =>
      rcases Command.mem_setup member with ⟨target, _, isStep⟩ | ⟨target, _, isStep⟩
      · refine SetupStep.not_imports isStep (fun imports => ?_)
          fun request => Arango.Connection.not_imports_of_creation
        cases Http.Request.Imports.isListed imports
      · refine SetupStep.not_imports isStep (fun imports => ?_) fun request isCreation imports => ?_
        · cases Http.Request.Imports.isListed imports
        · rw [List.mem_singleton.mp isCreation] at imports
          cases imports.isListed

/-! ## Records that grow -/

def Adds (kind : Effect → Prop) (before after : List Effect × ν) : Prop :=
  ∃ fresh, after.1 = fresh ++ before.1 ∧ ∀ effect ∈ fresh, kind effect

namespace Adds

variable {kind : Effect → Prop}

theorem refl (state : List Effect × ν) : Adds kind state state :=
  ⟨[], rfl, List.forall_mem_nil _⟩

theorem trans {first second third : List Effect × ν} (earlier : Adds kind first second)
    (later : Adds kind second third) : Adds kind first third := by
  obtain ⟨fresh, grown, ofKind⟩ := earlier
  obtain ⟨fresher, grownAgain, alsoOfKind⟩ := later
  refine ⟨fresher ++ fresh, ?_, ?_⟩
  · rw [grownAgain, grown, List.append_assoc]
  · intro effect member
    rcases List.mem_append.mp member with isLate | isEarly
    · exact alsoOfKind effect isLate
    · exact ofKind effect isEarly

theorem one {effect : Effect} (ofKind : kind effect) (record : List Effect) (before after : ν) :
    Adds kind (record, before) (effect :: record, after) :=
  ⟨[effect], rfl, List.forall_mem_singleton.mpr ofKind⟩

theorem effects {before after : World (List Effect × ν)}
    (grown : Adds kind before.outside after.outside) :
    ∃ later, after.effects = before.effects ++ later ∧ ∀ effect ∈ later, kind effect := by
  obtain ⟨fresh, added, ofKind⟩ := grown
  refine ⟨fresh.reverse, ?_, fun effect member => ofKind effect (List.mem_reverse.mp member)⟩
  rw [World.effects, World.effects, added, List.reverse_append]

end Adds

/-! ## Invariants -/

/-- No effect of a kind breaks this. -/
structure Surroundings.Keeps (surroundings : Surroundings ν) (kind : Effect → Prop)
    (invariant : ν → Prop) : Prop where
  opening : ∀ path outside, kind (.opening path) → invariant outside →
    invariant (surroundings.openStore path outside).state
  exchange : ∀ request outside, kind (.exchange request) → invariant outside →
    invariant (surroundings.network.exchange request outside).2
  writing : ∀ place step outside, kind (.writing place step) → invariant outside →
    invariant (surroundings.disk place step outside).2

theorem Surroundings.recorded_keeps (surroundings : Surroundings ν) (kind : Effect → Prop)
    (start : List Effect × ν) : surroundings.recorded.Keeps kind (Adds kind start) where
  opening _ outside ofKind grown := grown.trans (.one ofKind outside.1 outside.2 _)
  exchange _ outside ofKind grown := grown.trans (.one ofKind outside.1 outside.2 _)
  writing _ _ outside ofKind grown := grown.trans (.one ofKind outside.1 outside.2 _)

namespace Surroundings.Keeps

variable {surroundings : Surroundings ν} {kind : Effect → Prop} {invariant : ν → Prop}

theorem send (keeps : surroundings.Keeps kind invariant) {request : Request}
    (ofKind : kind (.exchange request)) {outside : ν} (holds : invariant outside) :
    invariant (surroundings.network.send request outside).2 := by
  unfold Http.Network.send
  cases surroundings.network.client.check request surroundings.network.clock with
  | error => exact holds
  | ok => exact keeps.exchange request outside ofKind holds

theorem perform (keeps : surroundings.Keeps kind invariant) {step : SetupStep}
    (ofKind : kind step.effect) {world : World ν} (holds : invariant world.outside) :
    invariant (surroundings.perform world step).2.outside := by
  cases step with
  | opening path =>
      have opened := keeps.opening path world.outside ofKind holds
      simp only [Surroundings.perform]
      cases (surroundings.openStore path world.outside).answer <;> exact opened
  | version request => exact keeps.send ofKind holds
  | listing request => exact keeps.send ofKind holds
  | creation request =>
      simp only [Surroundings.perform, Http.Network.create_eq]
      exact keeps.send ofKind holds

theorem performAll (keeps : surroundings.Keeps kind invariant) {steps : List SetupStep}
    (ofKind : ∀ step ∈ steps, kind step.effect) {world : World ν}
    (holds : invariant world.outside) :
    invariant (surroundings.performAll steps world).2.outside := by
  induction steps generalizing world with
  | nil => exact holds
  | cons first later inductionHypothesis =>
      have step := keeps.perform (ofKind first List.mem_cons_self) holds
      rw [Surroundings.performAll]
      cases taken : surroundings.perform world first with
      | mk answer after =>
          rw [taken] at step
          cases answer with
          | error => exact step
          | ok =>
              exact inductionHypothesis
                (fun other member => ofKind other (List.mem_cons_of_mem first member)) step

end Surroundings.Keeps

/-! ## Runs -/

def Destination.Keeps (destination : Destination σ) (invariant : σ → Prop) : Prop :=
  ∀ batch state, invariant state → invariant (destination.upsert batch state).state

section Runs

variable {invariant : σ → Prop}

theorem Destination.Keeps.handleAll {destination : Destination σ}
    (keeps : destination.Keeps invariant) {progress : Progress σ}
    (holds : invariant progress.state) (outgoing : List Outgoing) :
    invariant (progress.handleAll destination outgoing).state := by
  induction outgoing generalizing progress with
  | nil => exact holds
  | cons first later inductionHypothesis =>
      have step : invariant (progress.handle destination first).state := by
        cases first with
        | send batch => exact keeps batch progress.state holds
        | givenUp => exact holds
        | note => exact holds
      exact inductionHypothesis step

theorem Destination.Keeps.finish {destination : Destination σ}
    (keeps : destination.Keeps invariant) {state : σ} (holds : invariant state) (batchSize : Nat)
    (orders : List Order) :
    invariant ((Writer.start destination state batchSize).followAll orders).finish.state := by
  rw [Writer.finish_followAll, Writer.followAll_eq]
  exact keeps.handleAll holds _

theorem Database.keeps_after {α : Type} {database : Database σ}
    (keeps : ∀ step state, invariant state → invariant (database.perform step state).2)
    {next : σ → Reply σ α} (nextKeeps : ∀ state, invariant state → invariant (next state).state)
    (step : DatabaseStep) {state : σ} (holds : invariant state) :
    invariant (database.after step state next).state := by
  have kept := keeps step state holds
  unfold after
  cases taken : database.perform step state with
  | mk answer later =>
      rw [taken] at kept
      cases answer with
      | ok => exact nextKeeps later kept
      | error => exact kept

theorem Database.keeps_destination {database : Database σ}
    (keeps : ∀ step state, invariant state → invariant (database.perform step state).2) :
    database.destination.Keeps invariant := by
  intro batch state holds
  refine keeps_after keeps (fun opened holds => ?_) _ holds
  cases filed? batch.documents with
  | none => exact holds
  | some entries =>
      refine keeps_after keeps (fun applied holds => ?_) _ holds
      exact keeps_after keeps (fun _ holds => holds) _ holds

theorem EntityGraph.keeps_writeIfAny (graph : EntityGraph) (batchSize : Nat) {state : σ}
    (holds : invariant state) {destination? : Option (Destination σ)}
    (keeps : ∀ destination ∈ destination?, destination.Keeps invariant) :
    invariant (graph.writeIfAny batchSize state destination?).state := by
  cases destination? with
  | none => exact holds
  | some destination =>
      simp only [writeIfAny, write_eq]
      exact (keeps destination rfl).finish holds batchSize _

theorem EntityGraph.keeps_indexIfAny (graph : EntityGraph) (batchSize : Nat) {state : σ}
    (holds : invariant state) {destination? : Option (String × Destination σ)}
    (keeps : ∀ entry ∈ destination?, entry.2.Keeps invariant) :
    invariant (graph.indexIfAny batchSize state destination?).state := by
  cases destination? with
  | none => exact holds
  | some entry =>
      simp only [indexIfAny, index_eq]
      exact (keeps entry rfl).finish holds batchSize _

end Runs

theorem EntityGraph.keeps_writeAll (graph : EntityGraph) (options : WriteOptions)
    {opened : Opened ν} {world : World ν} {invariant : World ν → Prop} (holds : invariant world)
    (graphKeeps : ∀ entry ∈ opened.graph, entry.2.Keeps invariant)
    (searchKeeps : ∀ entry ∈ opened.search, entry.2.Keeps invariant) :
    invariant (graph.writeAll options opened world).state := by
  have between : ∀ batchSize,
      invariant (graph.writeIfAny batchSize world (opened.graph.map Prod.snd)).state := by
    intro batchSize
    refine graph.keeps_writeIfAny batchSize holds fun destination isOpened => ?_
    obtain ⟨entry, isEntry, rfl⟩ := Option.map_eq_some_iff.mp isOpened
    exact graphKeeps entry isEntry
  refine graph.keeps_indexIfAny _ (between _) fun named isOpened => ?_
  obtain ⟨entry, isEntry, rfl⟩ := Option.map_eq_some_iff.mp isOpened
  exact searchKeeps entry isEntry

theorem Arango.Connection.state_upsert (connection : Connection) (network : Http.Network ν)
    (batch : Batch) (state : ν) :
    (connection.upsert network batch state).state =
      (network.send (connection.importRequest batch) state).2 := by
  simp only [upsert, ask]
  cases (network.send (connection.importRequest batch) state).1.mapError DeliveryError.http |>.bind
    (decodeBody ImportResult.format.read) with
  | error => rfl
  | ok result => cases answered : result.answer <;> simp [answered]

theorem Typesense.Connection.state_upsert (connection : Connection) (network : Http.Network ν)
    (batch : Batch) (state : ν) :
    (connection.upsert network batch state).state =
      (network.send (connection.importRequest batch) state).2 := by
  unfold upsert
  cases network.send (connection.importRequest batch) state with
  | mk answer later => cases answer <;> rfl

/-- Documents are carried to a server, or to local stores if there are any to write to. -/
def CommandLine.WriteOptions.Carries (options : WriteOptions) (effect : Effect) : Prop :=
  effect.Imports ∧ effect.isExchange = options.store.isNone

namespace Surroundings.Keeps

variable {surroundings : Surroundings ν} {kind : Effect → Prop} {invariant : ν → Prop}
  {options : WriteOptions}

theorem remoteDestination (keeps : surroundings.Keeps kind invariant) {destination : Destination ν}
    {request : Batch → Request}
    (sends : ∀ batch state, (destination.upsert batch state).state =
      (surroundings.network.send (request batch) state).2)
    (ofKind : ∀ batch, kind (.exchange (request batch))) :
    (World.remoteDestination destination).Keeps fun world => invariant world.outside := by
  intro batch world holds
  simp only [World.remoteDestination, sends]
  exact keeps.send (ofKind batch) holds

theorem database (keeps : surroundings.Keeps kind invariant) (place : String)
    (ofKind : ∀ step, kind (.writing place step)) :
    (World.database surroundings.disk place).destination.Keeps fun world =>
      invariant world.outside := by
  apply Database.keeps_destination
  intro step world holds
  have written := keeps.writing place step world.outside (ofKind step) holds
  simp only [World.database]
  cases (surroundings.disk place step world.outside).1 <;> exact written

theorem graphDestination (keeps : surroundings.Keeps kind invariant)
    (ofKind : ∀ effect, options.Carries effect → kind effect) (target : GraphTarget) :
    (surroundings.graphDestination options target).Keeps fun world => invariant world.outside := by
  unfold Surroundings.graphDestination
  cases local? : options.store with
  | some directory => exact keeps.database _ fun step => ofKind _ ⟨trivial, by rw [local?]; rfl⟩
  | none =>
      generalize target.settings.connection = connection
      exact keeps.remoteDestination (connection.state_upsert surroundings.network)
        fun batch => ofKind _ ⟨⟨batch, Or.inl ⟨connection, rfl⟩⟩, by rw [local?]; rfl⟩

theorem searchDestination (keeps : surroundings.Keeps kind invariant)
    (ofKind : ∀ effect, options.Carries effect → kind effect) (target : SearchTarget) :
    (surroundings.searchDestination options target).Keeps fun world =>
      invariant world.outside := by
  unfold Surroundings.searchDestination
  cases local? : options.store with
  | some directory => exact keeps.database _ fun step => ofKind _ ⟨trivial, by rw [local?]; rfl⟩
  | none =>
      generalize target.settings.connection = connection
      exact keeps.remoteDestination (connection.state_upsert surroundings.network)
        fun batch => ofKind _ ⟨⟨batch, Or.inr ⟨connection, rfl⟩⟩, by rw [local?]; rfl⟩

theorem writeAll (keeps : surroundings.Keeps kind invariant)
    (ofKind : ∀ effect, options.Carries effect → kind effect) (entities : EntityGraph)
    (graph : Option GraphTarget) (search : Option SearchTarget) {world : World ν}
    (holds : invariant world.outside) :
    invariant (entities.writeAll options
      (surroundings.destinations options graph search) world).state.outside := by
  let holdsOutside : World ν → Prop := fun world => invariant world.outside
  have begins : holdsOutside world := holds
  refine entities.keeps_writeAll options begins ?_ ?_
  · intro entry isEntry
    obtain ⟨target, _, rfl⟩ := Option.map_eq_some_iff.mp isEntry
    exact keeps.graphDestination ofKind target
  · intro entry isEntry
    obtain ⟨target, _, rfl⟩ := Option.map_eq_some_iff.mp isEntry
    exact keeps.searchDestination ofKind target

end Surroundings.Keeps

/-! ## Stores -/

/-- Every store is one from before, or as it was when one of the steps opened it. -/
def Surroundings.OnlyOpened (surroundings : Surroundings ν) (steps : List SetupStep)
    (before after : World ν) : Prop :=
  ∀ place store, after.stores.get? place = some store →
    before.stores.get? place = some store ∨
      ∃ path outside, SetupStep.opening path ∈ steps ∧ settledPath path = place ∧
        (surroundings.openStore path outside).answer = .ok store

namespace Surroundings

variable (surroundings : Surroundings ν)

theorem onlyOpened_perform {steps : List SetupStep} {step : SetupStep} (member : step ∈ steps)
    {before world : World ν} (opened : surroundings.OnlyOpened steps before world) :
    surroundings.OnlyOpened steps before (surroundings.perform world step).2 := by
  cases step with
  | opening path =>
      simp only [perform]
      cases answered : (surroundings.openStore path world.outside).answer with
      | error => exact opened
      | ok store =>
          intro place found isFound
          change (world.stores.insert (settledPath path) store).get? place = some found at isFound
          rw [KeyMap.get?_insert] at isFound
          by_cases here : place = settledPath path
          · rw [if_pos here] at isFound
            rw [Option.some.inj isFound] at answered
            exact Or.inr ⟨path, world.outside, member, here.symm, answered⟩
          · rw [if_neg here] at isFound
            exact opened place found isFound
  | version => exact opened
  | listing => exact opened
  | creation => exact opened

theorem onlyOpened_performAll (steps : List SetupStep) (world : World ν) :
    surroundings.OnlyOpened steps world (surroundings.performAll steps world).2 := by
  -- the steps that are left are among all of them
  suffices fromHere : ∀ later : List SetupStep, (∀ step ∈ later, step ∈ steps) →
      ∀ between, surroundings.OnlyOpened steps world between →
        surroundings.OnlyOpened steps world (surroundings.performAll later between).2 by
    exact fromHere steps (fun _ member => member) world fun _ _ isFound => Or.inl isFound
  intro later among
  induction later with
  | nil => exact fun _ opened => opened
  | cons first others inductionHypothesis =>
      intro between opened
      have step := surroundings.onlyOpened_perform (among first List.mem_cons_self) opened
      rw [performAll]
      cases taken : surroundings.perform between first with
      | mk answer after =>
          rw [taken] at step
          cases answer with
          | error => exact step
          | ok =>
              exact inductionHypothesis
                (fun other member => among other (List.mem_cons_of_mem first member)) after step

end Surroundings

/-! ## Sessions -/

theorem CommandLine.Command.isExchange_of_setup {options : WriteOptions}
    {graph : Option GraphTarget} {search : Option SearchTarget} {directory : String}
    (isLocal : options.store = some directory) {step : SetupStep}
    (member : step ∈ (Command.write options graph search).setup) :
    step.effect.isExchange = false := by
  have opens : ∀ {entry reach creations}, step ∈ options.setup entry reach creations →
      step.effect.isExchange = false := by
    intro entry reach creations isStep
    rcases WriteOptions.mem_setup isStep with ⟨_, _, rfl⟩ | ⟨isRemote, _⟩
    · rfl
    · rw [isLocal] at isRemote
      cases isRemote
  rcases Command.mem_setup member with ⟨_, _, isStep⟩ | ⟨_, _, isStep⟩
  · exact opens isStep
  · exact opens isStep

namespace Surroundings

variable (surroundings : Surroundings ν)

/-- What a session did: first steps of its setup, then it carried documents. -/
theorem effects_write (options : WriteOptions) (graph : Option GraphTarget)
    (search : Option SearchTarget) (world : World ν) :
    let command := Command.write options graph search
    ∃ setup imports,
      (surroundings.recorded.run command world.recording).world.effects = setup ++ imports ∧
      (∀ effect ∈ setup, ∃ step ∈ command.setup, step.effect = effect) ∧
      (∀ effect ∈ imports, options.Carries effect) ∧
      (¬ surroundings.Ready command world → imports = []) := by
  intro command
  cases loaded : surroundings.load options.input with
  | error error =>
      have sameFailed : surroundings.recorded.load command.input = .error error := loaded
      rw [run_of_unloaded sameFailed]
      exact ⟨[], [], rfl, List.forall_mem_nil _, List.forall_mem_nil _, fun _ => rfl⟩
  | ok entities =>
      have sameLoaded : surroundings.recorded.load options.input = .ok entities := loaded
      let isStep : Effect → Prop := fun effect => ∃ step ∈ command.setup, step.effect = effect
      have ofSteps : ∀ step ∈ command.setup, isStep step.effect :=
        fun step member => ⟨step, member, rfl⟩
      have stepsAdd := (surroundings.recorded_keeps isStep world.recording.outside).performAll
        ofSteps (.refl _)
      -- a step fails on record just when it fails without
      have sameSteps := surroundings.recorded_over.performAll command.setup world.recording
      cases taken : surroundings.recorded.performAll command.setup world.recording with
      | mk answer after =>
          rw [taken] at stepsAdd sameSteps
          obtain ⟨setup, grown, areSteps⟩ := stepsAdd.effects
          have isSetup : after.effects = setup := grown
          cases answer with
          | error error =>
              obtain ⟨moved, _⟩ := run_of_unready sameLoaded taken
              refine ⟨setup, [], ?_, areSteps, List.forall_mem_nil _, fun _ => rfl⟩
              rw [moved, isSetup, List.append_nil]
          | ok =>
              obtain ⟨moved, _⟩ := run_of_ready sameLoaded taken
              have runsAdd := (surroundings.recorded_keeps options.Carries after.outside).writeAll
                (fun _ carries => carries) entities graph search (.refl _)
              obtain ⟨imports, added, carries⟩ := runsAdd.effects
              refine ⟨setup, imports, ?_, areSteps, carries, fun unready => absurd ?_ unready⟩
              · rw [moved, added, isSetup]
              · exact ⟨⟨entities, loaded⟩, congrArg Prod.fst sameSteps.symm⟩

theorem run_inspect (input : String) (json : Bool) (world : World ν) :
    (surroundings.run (.inspect input json) world).world = world := by
  unfold run
  cases surroundings.load (Command.inspect input json).input <;> rfl

theorem effects_of_unloaded {command : Command} {error : LoadError}
    (failed : surroundings.load command.input = .error error) (world : World ν) :
    (surroundings.recorded.run command world.recording).world.effects = [] := by
  have sameFailed : surroundings.recorded.load command.input = .error error := failed
  rw [run_of_unloaded sameFailed]
  rfl

theorem onlyOpened_run {command : Command} {world : World ν}
    (unready : ¬ surroundings.Ready command world) :
    (surroundings.run command world).summary = none ∧
      surroundings.OnlyOpened command.setup world (surroundings.run command world).world := by
  cases loaded : surroundings.load command.input with
  | error error =>
      rw [run_of_unloaded loaded]
      exact ⟨rfl, fun _ _ isFound => Or.inl isFound⟩
  | ok entities =>
      cases command with
      | inspect => exact absurd ⟨⟨entities, loaded⟩, rfl⟩ unready
      | write options graph search =>
          have opened :=
            surroundings.onlyOpened_performAll (Command.write options graph search).setup world
          cases taken :
            surroundings.performAll (Command.write options graph search).setup world with
          | mk answer after =>
              rw [taken] at opened
              cases answer with
              | ok => exact absurd ⟨⟨entities, loaded⟩, congrArg Prod.fst taken⟩ unready
              | error error =>
                  obtain ⟨moved, noSummary, _⟩ := run_of_unready loaded taken
                  exact ⟨noSummary, moved ▸ opened⟩

end Surroundings

/-- A session does not break what no effect breaks. -/
theorem Surroundings.Keeps.run {surroundings : Surroundings ν} {kind : Effect → Prop}
    {invariant : ν → Prop}
    (keeps : surroundings.Keeps kind invariant) (ofKind : ∀ effect, kind effect)
    (command : Command) {world : World ν} (holds : invariant world.outside) :
    invariant (surroundings.run command world).world.outside := by
  cases loaded : surroundings.load command.input with
  | error =>
      rw [Surroundings.run_of_unloaded loaded]
      exact holds
  | ok entities =>
      cases command with
      | inspect input json =>
          rw [Surroundings.run_inspect]
          exact holds
      | write options graph search =>
          have ofSteps : ∀ step ∈ (Command.write options graph search).setup, kind step.effect :=
            fun step _ => ofKind step.effect
          have ready := keeps.performAll ofSteps holds
          cases taken :
              surroundings.performAll (Command.write options graph search).setup world with
          | mk answer after =>
              rw [taken] at ready
              cases answer with
              | error =>
                  rw [(Surroundings.run_of_unready loaded taken).1]
                  exact ready
              | ok =>
                  rw [(Surroundings.run_of_ready loaded taken).1]
                  exact keeps.writeAll (fun effect _ => ofKind effect) entities graph search ready

/-- Whatever the input, the command and the answers of servers are: a session whose input cannot be
loaded does nothing and exits with status 1.  It carries documents only after all steps of its
setup, and only if each of them succeeded; else stores are left as they were opened.  With local
stores no request is exchanged, and an inspection does nothing outside.  All this is seen by
recording, which changes nothing else. -/
theorem nothing_is_written_before_all_is_ready (surroundings : Surroundings ν) (command : Command)
    (world : World ν) :
    let outcome := surroundings.run command world
    let observed := surroundings.recorded.run command world.recording
    let effects := observed.world.effects
    (observed.world.map Prod.snd = outcome.world ∧ observed.summary = outcome.summary ∧
      observed.failure = outcome.failure) ∧
    (∀ error, surroundings.load command.input = .error error →
      effects = [] ∧ outcome.world = world ∧ outcome.exitStatus = 1) ∧
    (∃ setup imports, effects = setup ++ imports ∧
      (∀ effect ∈ setup, ¬ effect.Imports ∧ ∃ step ∈ command.setup, step.effect = effect) ∧
      (∀ effect ∈ imports, effect.Imports) ∧
      (¬ surroundings.Ready command world →
        imports = [] ∧ outcome.summary = none ∧
          surroundings.OnlyOpened command.setup world outcome.world)) ∧
    (∀ options graph search, command = .write options graph search → options.store.isSome →
      ∀ effect ∈ effects, effect.isExchange = false) ∧
    (∀ input json, command = .inspect input json → effects = [] ∧ outcome.world = world) := by
  intro outcome observed effects
  refine ⟨surroundings.recorded_over.run command world.recording, ?_, ?_, ?_, ?_⟩
  · intro error failed
    have isOutcome : outcome = _ := surroundings.run_of_unloaded failed world
    rw [isOutcome]
    exact ⟨surroundings.effects_of_unloaded failed world, rfl, rfl⟩
  · cases command with
    | inspect input json =>
        have untouched := surroundings.recorded.run_inspect input json world.recording
        refine ⟨[], [], congrArg World.effects untouched, List.forall_mem_nil _,
          List.forall_mem_nil _, fun unready => ⟨rfl, surroundings.onlyOpened_run unready⟩⟩
    | write options graph search =>
        obtain ⟨setup, imports, split, areSteps, carries, unwritten⟩ :=
          surroundings.effects_write options graph search world
        refine ⟨setup, imports, split, ?_, fun effect member => (carries effect member).1,
          fun unready => ⟨unwritten unready, surroundings.onlyOpened_run unready⟩⟩
        intro effect member
        obtain ⟨step, isStep, rfl⟩ := areSteps effect member
        exact ⟨Command.not_imports_of_setup isStep, step, isStep, rfl⟩
  · intro options graph search isWrite isLocal effect member
    subst isWrite
    obtain ⟨directory, isStore⟩ := Option.isSome_iff_exists.mp isLocal
    obtain ⟨setup, imports, split, areSteps, carries, _⟩ :=
      surroundings.effects_write options graph search world
    have isEffect : effect ∈ setup ++ imports := split ▸ member
    rcases List.mem_append.mp isEffect with inSetup | inImports
    · obtain ⟨step, isStep, rfl⟩ := areSteps effect inSetup
      exact Command.isExchange_of_setup isStore isStep
    · rw [(carries effect inImports).2, isStore]
      rfl
  · intro input json isInspection
    subst isInspection
    have untouched := surroundings.recorded.run_inspect input json world.recording
    exact ⟨congrArg World.effects untouched, surroundings.run_inspect input json world⟩

/-- Both representations are to be written, and the search server answers with an error.  By then
the server of the property graph is reached, but it is not sent a single document. -/
theorem nothing_is_written_before_all_is_ready_refused :
    let entities := EntityGraph.ofList [("m", .named "m" .sourceModule)]
    let surroundings : Surroundings Http.Script := {
      load := fun _ => .ok entities
      openStore := fun _ script => { answer := .ok .empty, state := script }
      disk := fun _ _ script => (.ok (), script)
      network := .scripted 0 }
    let options : WriteOptions := {
      input := "m.json", batchSize := none, store := none, skipSetup := true, strict := false
      json := false }
    let command := Command.write options (some ⟨{}, defaultGraphName⟩)
      (some ⟨{}, defaultSearchCollection⟩)
    let world : World Http.Script := {
      outside := { answers := [Http.Script.plainAnswer, ⟨500, ""⟩] } }
    let effects := (surroundings.recorded.run command world.recording).world.effects
    ¬ surroundings.Ready command world ∧ effects.length = command.setup.length ∧
      (∀ effect ∈ effects, ¬ effect.Imports) ∧
      (surroundings.run command world).exitStatus = 1 := by
  intro entities surroundings options command world effects
  have fails : (surroundings.performAll command.setup world).1.toBool = false := by decide +kernel
  have unready : ¬ surroundings.Ready command world := by
    intro ready
    rw [ready.2] at fails
    cases fails
  obtain ⟨_, _, ⟨setup, imports, split, areSteps, _, unwritten⟩, _⟩ :=
    nothing_is_written_before_all_is_ready surroundings command world
  refine ⟨unready, by decide +kernel, ?_, by decide +kernel⟩
  rw [(unwritten unready).1, List.append_nil] at split
  intro effect member
  exact (areSteps effect (split ▸ member)).1

end CodeGraph
