import CodeGraph.Proofs.Account
import CodeGraph.Proofs.Provisioning
import CodeGraph.Proofs.Readiness
import CodeGraph.Proofs.SearchRecords
import CodeGraph.Proofs.Transformation

/-!
# Observed sessions

Surroundings may keep more than they answer from, such as a record of what they were asked.  A
session does not notice: in the part of the world that the answers come from, it does what it does
without the rest, `Surroundings.Over.run`.  So a session is observed by recording the stores that
are opened and written and the requests that are exchanged.
-/

set_option autoImplicit false

namespace CodeGraph

open CommandLine (Command WriteOptions GraphTarget SearchTarget)
open Http (Network Request)

variable {μ ν : Type}

/-! ## Destinations over others -/

def World.map (part : μ → ν) (world : World μ) : World ν where
  outside := part world.outside
  stores := world.stores

def Disk.Over (disk : Disk μ) (base : Disk ν) (part : μ → ν) : Prop :=
  ∀ place step state, (disk place step state).map id part = base place step (part state)

/-- A database that takes its steps like another one, from a part of its state. -/
def Database.Over {σ τ : Type} (database : Database σ) (base : Database τ) (part : σ → τ) : Prop :=
  ∀ step state, (database.perform step state).map id part = base.perform step (part state)

namespace Database.Over

variable {σ τ α : Type} {database : Database σ} {base : Database τ} {part : σ → τ}

theorem after (isOver : database.Over base part) (step : DatabaseStep) (state : σ)
    {next : σ → Reply σ α} {baseNext : τ → Reply τ α}
    (sameNext : ∀ later, (next later).map part = baseNext (part later)) :
    (database.after step state next).map part = base.after step (part state) baseNext := by
  simp only [Database.after, ← isOver step state]
  cases database.perform step state with
  | mk answer later =>
      cases answer with
      | ok => exact sameNext later
      | error => rfl

theorem destination (isOver : database.Over base part) :
    database.destination.Over base.destination part where
  name := rfl
  upsert batch state := by
    apply isOver.after
    intro opened
    cases filed? batch.documents with
    | none => rfl
    | some entries => exact isOver.after _ _ fun applied => isOver.after _ _ fun _ => rfl

end Database.Over

theorem World.database_over {disk : Disk μ} {base : Disk ν} {part : μ → ν}
    (isOver : disk.Over base part) (place : String) :
    (World.database disk place).Over (World.database base place) (World.map part) := by
  intro step world
  simp only [database, World.map, ← isOver place step]
  cases disk place step world.outside with
  | mk answer outside => cases answer <;> rfl

theorem World.remoteDestination_over {destination : Destination μ} {base : Destination ν}
    {part : μ → ν} (isOver : destination.Over base part) :
    (World.remoteDestination destination).Over (World.remoteDestination base) (World.map part) where
  name := isOver.name
  upsert batch world := by
    simp only [remoteDestination, map, ← isOver.upsert]
    rfl

section Servers

variable {network : Network μ} {base : Network ν} {part : μ → ν}

theorem Arango.ask_over {α : Type} (isOver : network.Over base part) (request : Request)
    (reader : Json.Reader α) (state : μ) :
    (ask network request reader state).map id part = ask base request reader (part state) := by
  simp only [ask, ← isOver.send]
  rfl

theorem Arango.Connection.destination_over (isOver : network.Over base part)
    (connection : Connection) :
    (connection.destination network).Over (connection.destination base) part where
  name := rfl
  upsert batch state := by
    simp only [destination, upsert, ← Arango.ask_over isOver]
    cases Arango.ask network (connection.importRequest batch) ImportResult.format.read state with
    | mk answer later =>
        cases answer with
        | error => rfl
        | ok result =>
            simp only [Prod.map_apply, id_eq]
            cases result.answer <;> rfl

theorem Typesense.Connection.destination_over (isOver : network.Over base part)
    (connection : Connection) :
    (connection.destination network).Over (connection.destination base) part where
  name := rfl
  upsert batch state := by
    simp only [destination, upsert, ← isOver.send]
    cases network.send (connection.importRequest batch) state with
    | mk answer later => cases answer <;> rfl

end Servers

/-! ## Runs into destinations over others -/

section Runs

variable {σ τ : Type} {destination : Destination σ} {base : Destination τ} {part : σ → τ}

theorem Writer.map_finish (isOver : destination.Over base part) (state : σ) (batchSize : Nat)
    (orders : List Order) :
    ((Writer.start destination state batchSize).followAll orders).finish.map part =
      ((Writer.start base (part state) batchSize).followAll orders).finish := by
  rw [finish_followAll, finish_followAll, followAll_eq, followAll_eq]
  exact Progress.map_handleAll isOver _ _

def Written.map (part : σ → τ) (written : Written σ) : Written τ :=
  { written with state := part written.state }

theorem EntityGraph.map_writeIfAny (graph : EntityGraph) (batchSize : Nat) (state : σ)
    {destination? : Option (Destination σ)} {base? : Option (Destination τ)}
    (isOver : Option.Rel (fun destination base => destination.Over base part) destination? base?) :
    (graph.writeIfAny batchSize state destination?).map part =
      graph.writeIfAny batchSize (part state) base? := by
  cases isOver with
  | none => rfl
  | some isOver =>
      simp only [writeIfAny, write_eq, ← Writer.map_finish isOver]
      rfl

theorem EntityGraph.map_indexIfAny (graph : EntityGraph) (batchSize : Nat) (state : σ)
    {destination? : Option (String × Destination σ)} {base? : Option (String × Destination τ)}
    (isOver : Option.Rel (fun destination base =>
      destination.1 = base.1 ∧ destination.2.Over base.2 part) destination? base?) :
    (graph.indexIfAny batchSize state destination?).map part =
      graph.indexIfAny batchSize (part state) base? := by
  cases isOver with
  | none => rfl
  | @some destination base isOver =>
      simp only [indexIfAny, index_eq, isOver.1, ← Writer.map_finish isOver.2]
      rfl

end Runs

/-! ## Sessions in surroundings over others -/

structure Surroundings.Over (surroundings : Surroundings μ) (base : Surroundings ν) (part : μ → ν) :
    Prop where
  load : surroundings.load = base.load
  openStore : ∀ path state,
    (surroundings.openStore path state).map part = base.openStore path (part state)
  disk : surroundings.disk.Over base.disk part
  network : surroundings.network.Over base.network part

namespace Surroundings.Over

variable {surroundings : Surroundings μ} {base : Surroundings ν} {part : μ → ν}

theorem perform (isOver : surroundings.Over base part) (world : World μ) (step : SetupStep) :
    (surroundings.perform world step).map id (World.map part) =
      base.perform (world.map part) step := by
  cases step with
  | opening path =>
      simp only [Surroundings.perform, World.map, ← isOver.openStore, Reply.map]
      cases (surroundings.openStore path world.outside).answer <;> rfl
  | version request =>
      simp only [Surroundings.perform, World.map, ← Arango.ask_over isOver.network]
      rfl
  | listing request =>
      simp only [Surroundings.perform, World.map, ← isOver.network.send]
      rfl
  | creation request =>
      simp only [Surroundings.perform, World.map, ← isOver.network.create]
      rfl

theorem performAll (isOver : surroundings.Over base part) (steps : List SetupStep)
    (world : World μ) :
    (surroundings.performAll steps world).map id (World.map part) =
      base.performAll steps (world.map part) := by
  induction steps generalizing world with
  | nil => rfl
  | cons first later inductionHypothesis =>
      simp only [Surroundings.performAll, ← isOver.perform]
      cases surroundings.perform world first with
      | mk answer after =>
          cases answer with
          | ok => exact inductionHypothesis after
          | error => rfl

theorem graphDestination (isOver : surroundings.Over base part) (options : WriteOptions)
    (target : GraphTarget) :
    (surroundings.graphDestination options target).Over (base.graphDestination options target)
      (World.map part) := by
  unfold Surroundings.graphDestination
  cases options.store with
  | some directory => exact (World.database_over isOver.disk _).destination
  | none =>
      exact World.remoteDestination_over (Arango.Connection.destination_over isOver.network _)

theorem searchDestination (isOver : surroundings.Over base part) (options : WriteOptions)
    (target : SearchTarget) :
    (surroundings.searchDestination options target).Over (base.searchDestination options target)
      (World.map part) := by
  unfold Surroundings.searchDestination
  cases options.store with
  | some directory => exact (World.database_over isOver.disk _).destination
  | none =>
      exact World.remoteDestination_over (Typesense.Connection.destination_over isOver.network _)

theorem writeAll (isOver : surroundings.Over base part) (entities : EntityGraph)
    (options : WriteOptions) (graph : Option GraphTarget) (search : Option SearchTarget)
    (world : World μ) :
    (entities.writeAll options (surroundings.destinations options graph search) world).map
        (World.map part) =
      entities.writeAll options (base.destinations options graph search) (world.map part) := by
  have graphRun : ∀ batchSize, (entities.writeIfAny batchSize world
      ((surroundings.destinations options graph search).graph.map Prod.snd)).map (World.map part) =
        entities.writeIfAny batchSize (world.map part)
          ((base.destinations options graph search).graph.map Prod.snd) := by
    intro batchSize
    apply EntityGraph.map_writeIfAny
    cases graph with
    | none => exact .none
    | some target => exact .some (isOver.graphDestination options target)
  -- from whatever world the first run leaves
  have searchRun : ∀ batchSize (between : World μ), (entities.indexIfAny batchSize between
      ((surroundings.destinations options graph search).search.map fun entry =>
        (entry.1.collection, entry.2))).map (World.map part) =
        entities.indexIfAny batchSize (between.map part)
          ((base.destinations options graph search).search.map fun entry =>
            (entry.1.collection, entry.2)) := by
    intro batchSize between
    apply EntityGraph.map_indexIfAny
    cases search with
    | none => exact .none
    | some target => exact .some ⟨rfl, isOver.searchDestination options target⟩
  unfold EntityGraph.writeAll
  simp only [← graphRun]
  simp only [Written.map, ← searchRun]

theorem run (isOver : surroundings.Over base part) (command : Command) (world : World μ) :
    let outcome := surroundings.run command world
    let expected := base.run command (world.map part)
    outcome.world.map part = expected.world ∧ outcome.summary = expected.summary ∧
      outcome.failure = expected.failure := by
  cases loaded : base.load command.input with
  | error error =>
      have sameFailed : surroundings.load command.input = .error error :=
        (congrFun isOver.load _).trans loaded
      rw [Surroundings.run_of_unloaded sameFailed, Surroundings.run_of_unloaded loaded]
      exact ⟨rfl, rfl, rfl⟩
  | ok entities =>
      have sameLoaded : surroundings.load command.input = .ok entities :=
        (congrFun isOver.load _).trans loaded
      cases command with
      | inspect input json =>
          simp only [Surroundings.run, sameLoaded, loaded, Surroundings.carryOut, and_self]
      | write options graph search =>
          have steps := isOver.performAll (Command.write options graph search).setup world
          cases taken :
            surroundings.performAll (Command.write options graph search).setup world with
          | mk answer after =>
              rw [taken] at steps
              cases answer with
              | error error =>
                  obtain ⟨moved, noSummary, failed⟩ := Surroundings.run_of_unready sameLoaded taken
                  obtain ⟨baseMoved, baseNoSummary, baseFailed⟩ :=
                    Surroundings.run_of_unready loaded steps.symm
                  exact ⟨(congrArg (World.map part) moved).trans baseMoved.symm,
                    noSummary.trans baseNoSummary.symm, failed.trans baseFailed.symm⟩
              | ok =>
                  obtain ⟨moved, summarized, failed⟩ := Surroundings.run_of_ready sameLoaded taken
                  obtain ⟨baseMoved, baseSummarized, baseFailed⟩ :=
                    Surroundings.run_of_ready loaded steps.symm
                  have written := isOver.writeAll entities options graph search after
                  have sameWorld := congrArg Written.state written
                  have sameSummary := congrArg Written.summary written
                  refine ⟨(congrArg (World.map part) moved).trans (sameWorld.trans baseMoved.symm),
                    ?_, ?_⟩
                  · exact summarized.trans ((congrArg some sameSummary).trans baseSummarized.symm)
                  · exact failed.trans ((congrArg (strictFailure? options.strict)
                      sameSummary).trans baseFailed.symm)

end Surroundings.Over

/-! ## Recording -/

inductive Effect where
  | opening (path : String)
  | exchange (request : Request)
  /-- A step is taken in which a local store is written. -/
  | writing (place : String) (step : DatabaseStep)

def Surroundings.recorded (surroundings : Surroundings ν) : Surroundings (List Effect × ν) where
  load := surroundings.load
  openStore := fun path state =>
    let reply := surroundings.openStore path state.2
    { reply with state := (.opening path :: state.1, reply.state) }
  disk := fun place step state =>
    let (answer, later) := surroundings.disk place step state.2
    (answer, (.writing place step :: state.1, later))
  network := {
    clock := surroundings.network.clock
    client := surroundings.network.client
    exchange := fun request state =>
      let (answer, later) := surroundings.network.exchange request state.2
      (answer, (.exchange request :: state.1, later)) }

def World.recording (world : World ν) : World (List Effect × ν) :=
  world.map fun outside => ([], outside)

def World.effects (world : World (List Effect × ν)) : List Effect :=
  world.outside.1.reverse

theorem Surroundings.recorded_over (surroundings : Surroundings ν) :
    surroundings.recorded.Over surroundings Prod.snd where
  load := rfl
  openStore _ _ := rfl
  disk _ _ _ := rfl
  network := ⟨rfl, rfl, fun _ _ => rfl⟩

end CodeGraph
