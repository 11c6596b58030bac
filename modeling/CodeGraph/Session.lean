import CodeGraph.CommandLine.Command
import CodeGraph.Memory
import CodeGraph.Store
import CodeGraph.Summary

/-!
# Sessions

A session carries out a command.  First the input is loaded, then every destination is opened and
made ready, and only then anything is written.
-/

set_option autoImplicit false

namespace CodeGraph

open CommandLine (Command WriteOptions GraphTarget SearchTarget)

/-- What a session can change: what lies outside of it, such as the network and the files, and the
local stores by place. -/
structure World (ν : Type) where
  outside : ν
  stores : KeyMap Store := .empty

/-- How the disk takes the steps in which the store at a place is written. -/
abbrev Disk (ν : Type) : Type := String → DatabaseStep → ν → Except StoreFault Unit × ν

namespace World

variable {ν : Type}

def put (world : World ν) (place : String) (store : Store) : World ν :=
  { world with stores := world.stores.insert place store }

def storeAt (world : World ν) (place : String) : Store :=
  (world.stores.get? place).getD .empty

/-- The store at a place as a database on a disk.  A step that the disk refuses does nothing. -/
def database (disk : Disk ν) (place : String) : Database (World ν) where
  perform := fun step world =>
    let (answer, outside) := disk place step world.outside
    let world := { world with outside }
    match answer with
    | .ok () => (.ok (), world.put place ((world.storeAt place).perform step))
    | .error fault => (.error fault, world)
  treeNames := fun world => (world.storeAt place).collections.keys
  size := fun name world => (world.storeAt place).count name
  find := fun name key world => .ok (((world.storeAt place).collection name).get? key)
  entries := fun name world => .ok ((world.storeAt place).collection name).entries

def remoteDestination (destination : Destination ν) : Destination (World ν) where
  name := destination.name
  upsert := fun batch world =>
    let reply := destination.upsert batch world.outside
    { reply with state := { world with outside := reply.state } }

end World

/-- What a session finds around it: how inputs are loaded and stores are opened, the disk on which
the stores are, and the network. -/
structure Surroundings (ν : Type) where
  load : String → Except LoadError EntityGraph
  openStore : String → ν → Reply ν Store
  disk : Disk ν
  network : Http.Network ν

inductive Message where
  | notice (text : String)
  | event (event : Event)

inductive Failure where
  | load (error : LoadError)
  | delivery (error : DeliveryError)
  | incomplete

def Failure.message : Failure → String
  | load error => error.message
  | delivery error => error.message
  | incomplete => "some documents were not written (--strict)"

/-- Whether a failure ends the program at once. -/
def Failure.isAbrupt : Failure → Bool
  | delivery (.http .limitOverflow) => true
  | _ => false

def Failure.exitStatus (failure : Failure) : Nat :=
  if failure.isAbrupt then 101 else 1

def Failure.heading (failure : Failure) : String :=
  if failure.isAbrupt then "aborted: " else "error: "

/-- A part of a session: what comes of it, the world afterwards, and the messages. -/
structure Stage (ν α : Type) where
  answer : Except DeliveryError α
  world : World ν
  messages : List Message := []

namespace Stage

variable {ν α β : Type}

def pure (answer : α) (world : World ν) : Stage ν α :=
  { answer := .ok answer, world }

/-- Two parts one after the other.  The second one is left out if the first one fails. -/
def andThen (first : Stage ν α) (second : α → World ν → Stage ν β) : Stage ν β :=
  match first.answer with
  | .error error => { answer := .error error, world := first.world, messages := first.messages }
  | .ok value =>
      let rest := second value first.world
      { rest with messages := first.messages ++ rest.messages }

def ofReply (reply : Reply ν α) (world : World ν) : Stage ν α where
  answer := reply.answer
  world := { world with outside := reply.state }
  messages := reply.events.map .event

def tell (message : Message) (world : World ν) : Stage ν Unit where
  answer := .ok ()
  world := world
  messages := [message]

end Stage

def successNotice (text : String) : Message :=
  .notice ("✓ " ++ text)

namespace Surroundings

variable {ν : Type}

def openLocal (surroundings : Surroundings ν) (directory entry content : String)
    (world : World ν) : Stage ν (Destination (World ν)) :=
  let path := joinPath directory entry
  (Stage.ofReply (surroundings.openStore path world.outside) world).andThen fun store world =>
    { answer := .ok (World.database surroundings.disk (settledPath path)).destination
      world := world.put (settledPath path) store
      messages := [successNotice ("Writing " ++ content ++ " to local store " ++ directory)] }

def openArango (surroundings : Surroundings ν) (skipSetup : Bool) (target : GraphTarget)
    (world : World ν) : Stage ν (Destination (World ν)) :=
  (Stage.ofReply (Arango.connect surroundings.network target.settings world.outside) world).andThen
    fun connection world =>
      let destination := World.remoteDestination (connection.destination surroundings.network)
      let ready : Stage ν Unit :=
        if skipSetup then
          .tell (.event ⟨.info, "Skipping graph provisioning"⟩) world
        else
          (Stage.ofReply
            (connection.ensureSchema surroundings.network target.graph world.outside) world).andThen
              fun _ => .tell (successNotice ("Graph " ++ target.graph ++ " ready in database "
                ++ target.settings.database))
      ready.andThen fun _ => .pure destination

def provisionedWord : Http.Provisioned → String
  | .created => "created"
  | .existing => "exists"

def openTypesense (surroundings : Surroundings ν) (skipSetup : Bool) (target : SearchTarget)
    (world : World ν) : Stage ν (Destination (World ν)) :=
  (Stage.ofReply (Typesense.connect surroundings.network target.settings world.outside)
    world).andThen fun connection world =>
      let destination := World.remoteDestination (connection.destination surroundings.network)
      let ready : Stage ν Unit :=
        if skipSetup then
          .tell (.event ⟨.info, "Skipping collection provisioning"⟩) world
        else
          (Stage.ofReply
            (connection.ensureCollection surroundings.network target.collection world.outside)
            world).andThen fun outcome => .tell (successNotice ("Collection "
              ++ target.collection ++ " " ++ provisionedWord outcome))
      ready.andThen fun _ => .pure destination

def openGraph (surroundings : Surroundings ν) (options : WriteOptions) (target : GraphTarget) :
    World ν → Stage ν (Destination (World ν)) :=
  match options.store with
  | some directory => surroundings.openLocal directory "graph" "graph"
  | none => surroundings.openArango options.skipSetup target

def openSearch (surroundings : Surroundings ν) (options : WriteOptions) (target : SearchTarget) :
    World ν → Stage ν (Destination (World ν)) :=
  match options.store with
  | some directory => surroundings.openLocal directory "search" "search documents"
  | none => surroundings.openTypesense options.skipSetup target

end Surroundings

def openIfAny {ν τ δ : Type} (openTarget : τ → World ν → Stage ν δ) :
    Option τ → World ν → Stage ν (Option (τ × δ))
  | none, world => .pure none world
  | some target, world =>
      (openTarget target world).andThen fun destination => .pure (some (target, destination))

structure Opened (ν : Type) where
  graph : Option (GraphTarget × Destination (World ν))
  search : Option (SearchTarget × Destination (World ν))

def Surroundings.openAll {ν : Type} (surroundings : Surroundings ν) (options : WriteOptions)
    (graph : Option GraphTarget) (search : Option SearchTarget) (world : World ν) :
    Stage ν (Opened ν) :=
  (openIfAny (surroundings.openGraph options) graph world).andThen fun graph world =>
    (openIfAny (surroundings.openSearch options) search world).andThen fun search =>
      .pure ⟨graph, search⟩

structure Written (σ : Type) where
  summary : Summary
  state : σ
  events : List Event

def EntityGraph.writeIfAny {σ : Type} (entities : EntityGraph) (batchSize : Nat) (state : σ) :
    Option (Destination σ) → Written σ
  | none => ⟨{}, state, []⟩
  | some destination =>
      let (stats, progress) := entities.write destination state batchSize
      ⟨{ graph := some stats }, progress.state, progress.journal.toList⟩

def EntityGraph.indexIfAny {σ : Type} (entities : EntityGraph) (batchSize : Nat) (state : σ) :
    Option (String × Destination σ) → Written σ
  | none => ⟨{}, state, []⟩
  | some (collection, destination) =>
      let (stats, progress) := entities.index collection destination state batchSize
      ⟨{ search := some stats }, progress.state, progress.journal.toList⟩

def EntityGraph.writeAll {ν : Type} (entities : EntityGraph) (options : WriteOptions)
    (opened : Opened ν) (world : World ν) : Written (World ν) :=
  let graph := entities.writeIfAny (options.batchSize.getD graphBatchSize) world
    (opened.graph.map Prod.snd)
  let search := entities.indexIfAny (options.batchSize.getD searchBatchSize) graph.state
    (opened.search.map fun entry => (entry.1.collection, entry.2))
  { summary := { graph := graph.summary.graph, search := search.summary.search }
    state := search.state
    events := graph.events ++ search.events }

def EntityGraph.inspect (entities : EntityGraph) : Summary × List Event :=
  let (graph, graphProgress) := entities.write Memory.destination {} graphBatchSize
  let (search, searchProgress) :=
    entities.index defaultSearchCollection Memory.destination {} searchBatchSize
  (⟨some graph, some search⟩, graphProgress.journal.toList ++ searchProgress.journal.toList)

/-- What comes of a session: the world afterwards, what was told, the summary if there were runs,
and the failure if there was one. -/
structure Outcome (ν : Type) where
  world : World ν
  messages : List Message
  summary : Option Summary := none
  failure : Option Failure := none

def Outcome.exitStatus {ν : Type} (outcome : Outcome ν) : Nat :=
  (outcome.failure.map Failure.exitStatus).getD 0

def loadedMessages (entities : EntityGraph) (path : String) : List Message :=
  [.event (entities.loadedEvent path),
    successNotice ("Loaded " ++ toString entities.size ++ " entities from " ++ path)]

/-- The failure of runs that lost documents, where that counts. -/
def strictFailure? (strict : Bool) (summary : Summary) : Option Failure :=
  if strict && summary.failures > 0 then some .incomplete else none

def Surroundings.carryOut {ν : Type} (surroundings : Surroundings ν) (entities : EntityGraph)
    (world : World ν) : Command → Outcome ν
  | .inspect _ _ =>
      let (summary, events) := entities.inspect
      { world, messages := events.map .event, summary := some summary }
  | .write options graph search =>
      let stage := surroundings.openAll options graph search world
      match stage.answer with
      | .error error =>
          { world := stage.world, messages := stage.messages
            failure := some (.delivery error) }
      | .ok opened =>
          let written := entities.writeAll options opened stage.world
          { world := written.state
            messages := stage.messages ++ written.events.map .event
            summary := some written.summary
            failure := strictFailure? options.strict written.summary }

def Failure.notice (failure : Failure) : Message :=
  .notice (failure.heading ++ failure.message)

/-- Carries out a command.  Nothing but the input is touched if it cannot be loaded. -/
def Surroundings.run {ν : Type} (surroundings : Surroundings ν) (command : Command)
    (world : World ν) : Outcome ν :=
  match surroundings.load command.input with
  | .error error => { world, messages := [], failure := some (.load error) }
  | .ok entities =>
      let outcome := surroundings.carryOut entities world command
      { outcome with messages := loadedMessages entities command.input ++ outcome.messages }

def Outcome.told {ν : Type} (outcome : Outcome ν) : List Message :=
  outcome.messages ++ outcome.failure.toList.map Failure.notice

end CodeGraph
