import CodeGraph.Proofs.Provisioning
import CodeGraph.Session

/-!
# What has to be ready

Before a command writes anything it opens its stores or reaches its servers and, unless that is to
be skipped, has them create what is needed.  Each of these is a step, and the steps are taken in
order up to the first that fails.  `Stage.Follows` relates a part of a session to its steps, and so
every session comes down to its steps and, after them, its runs: `Surroundings.run_of_unready` and
`Surroundings.run_of_ready`.
-/

set_option autoImplicit false

namespace CodeGraph

open CommandLine (Command WriteOptions GraphTarget SearchTarget)

variable {ν α β : Type}

inductive SetupStep where
  | opening (path : String)
  /-- A server is asked for its version, which it gives as JSON. -/
  | version (request : Http.Request)
  /-- A server is asked for what it holds, and need only answer. -/
  | listing (request : Http.Request)
  /-- An object is created unless it is there already. -/
  | creation (request : Http.Request)

/-! ## The steps of a command -/

/-- The steps towards a destination: a store with this entry in its directory, or a server that is
reached by a first step and then has these objects created. -/
def CommandLine.WriteOptions.setup (options : WriteOptions) (entry : String) (reach : SetupStep)
    (creations : List Http.Request) : List SetupStep :=
  match options.store with
  | some directory => [.opening (joinPath directory entry)]
  | none => [reach] ++ if options.skipSetup then [] else creations.map .creation

def CommandLine.WriteOptions.graphSetup (options : WriteOptions) (target : GraphTarget) :
    List SetupStep :=
  let connection := target.settings.connection
  options.setup "graph" (.version connection.versionRequest)
    ((connection.creations target.graph).map Arango.Creation.request)

def CommandLine.WriteOptions.searchSetup (options : WriteOptions) (target : SearchTarget) :
    List SetupStep :=
  let connection := target.settings.connection
  options.setup "search" (.listing connection.collectionsRequest)
    [connection.collectionRequest target.collection]

def CommandLine.Command.setup : Command → List SetupStep
  | .write options graph search =>
      graph.elim [] options.graphSetup ++ search.elim [] options.searchSetup
  | .inspect _ _ => []

theorem CommandLine.WriteOptions.mem_setup {options : WriteOptions} {entry : String}
    {reach step : SetupStep} {creations : List Http.Request}
    (member : step ∈ options.setup entry reach creations) :
    (∃ directory, options.store = some directory ∧ step = .opening (joinPath directory entry)) ∨
      options.store = none ∧ (step = reach ∨ ∃ request ∈ creations, step = .creation request) := by
  unfold setup at member
  cases local? : options.store with
  | some directory =>
      rw [local?] at member
      exact Or.inl ⟨directory, rfl, List.mem_singleton.mp member⟩
  | none =>
      rw [local?] at member
      refine Or.inr ⟨rfl, ?_⟩
      rcases List.mem_cons.mp member with isFirst | later
      · exact Or.inl isFirst
      · by_cases skipped : options.skipSetup = true
        · rw [if_pos skipped] at later
          cases later
        · rw [if_neg skipped] at later
          obtain ⟨request, isRequest, isStep⟩ := List.mem_map.mp later
          exact Or.inr ⟨request, isRequest, isStep.symm⟩

theorem CommandLine.Command.mem_setup {options : WriteOptions} {graph : Option GraphTarget}
    {search : Option SearchTarget} {step : SetupStep}
    (member : step ∈ (Command.write options graph search).setup) :
    (∃ target, graph = some target ∧ step ∈ options.graphSetup target) ∨
      ∃ target, search = some target ∧ step ∈ options.searchSetup target := by
  rcases List.mem_append.mp member with towardsGraph | towardsSearch
  · cases graph with
    | none => cases towardsGraph
    | some target => exact Or.inl ⟨target, rfl, towardsGraph⟩
  · cases search with
    | none => cases towardsSearch
    | some target => exact Or.inr ⟨target, rfl, towardsSearch⟩

/-! ## Taking steps -/

namespace Surroundings

variable (surroundings : Surroundings ν)

def perform (world : World ν) : SetupStep → Except DeliveryError Unit × World ν
  | .opening path =>
      let reply := surroundings.openStore path world.outside
      let after : World ν := { world with outside := reply.state }
      match reply.answer with
      | .ok store => (.ok (), after.put (settledPath path) store)
      | .error error => (.error error, after)
  | .version request =>
      let (answer, outside) := Arango.ask surroundings.network request
        (Json.readValue Json.maxDepth) world.outside
      (answer.map fun _ => (), { world with outside })
  | .listing request =>
      let (answer, outside) := surroundings.network.send request world.outside
      ((answer.mapError .http).map fun _ => (), { world with outside })
  | .creation request =>
      let (answer, outside) := surroundings.network.create request world.outside
      ((answer.mapError .http).map fun _ => (), { world with outside })

def performAll : List SetupStep → World ν → Except DeliveryError Unit × World ν
  | [], world => (.ok (), world)
  | first :: later, world =>
      match surroundings.perform world first with
      | (.ok (), after) => performAll later after
      | (.error error, after) => (.error error, after)

theorem performAll_append (first second : List SetupStep) (world : World ν) :
    surroundings.performAll (first ++ second) world =
      match surroundings.performAll first world with
      | (.ok (), after) => surroundings.performAll second after
      | (.error error, after) => (.error error, after) := by
  induction first generalizing world with
  | nil => rfl
  | cons step later inductionHypothesis =>
      rw [List.cons_append, performAll, performAll]
      cases surroundings.perform world step with
      | mk answer after =>
          cases answer with
          | ok => exact inductionHypothesis after
          | error => rfl

theorem performAll_singleton (step : SetupStep) (world : World ν) :
    surroundings.performAll [step] world = surroundings.perform world step := by
  rw [performAll]
  cases surroundings.perform world step with
  | mk answer after => cases answer <;> rfl

/-- The input can be loaded, and every step of the command succeeds. -/
def Ready (command : Command) (world : World ν) : Prop :=
  (∃ entities, surroundings.load command.input = .ok entities) ∧
    (surroundings.performAll command.setup world).1 = .ok ()

end Surroundings

/-! ## Parts of a session and their steps -/

/-- A part of a session takes these steps, and answers with this value if all succeed. -/
def Stage.Follows (surroundings : Surroundings ν) (stage : World ν → Stage ν α)
    (steps : List SetupStep) (value : α) : Prop :=
  ∀ world, (stage world).answer =
      (surroundings.performAll steps world).1.map (fun _ => value) ∧
    (stage world).world = (surroundings.performAll steps world).2

theorem Stage.andThen_of_ok {first : Stage ν α} {value : α} (succeeded : first.answer = .ok value)
    (second : α → World ν → Stage ν β) :
    (first.andThen second).answer = (second value first.world).answer ∧
      (first.andThen second).world = (second value first.world).world := by
  unfold andThen
  rw [succeeded]
  exact ⟨rfl, rfl⟩

theorem Stage.andThen_of_error {first : Stage ν α} {error : DeliveryError}
    (failed : first.answer = .error error) (second : α → World ν → Stage ν β) :
    (first.andThen second).answer = .error error ∧
      (first.andThen second).world = first.world := by
  unfold andThen
  rw [failed]
  exact ⟨rfl, rfl⟩

namespace Stage.Follows

variable {surroundings : Surroundings ν}

theorem pure (value : α) : Follows surroundings (Stage.pure value) [] value :=
  fun _ => ⟨rfl, rfl⟩

theorem tell (message : Message) : Follows surroundings (Stage.tell message) [] () :=
  fun _ => ⟨rfl, rfl⟩

theorem andThen {first : World ν → Stage ν α} {second : α → World ν → Stage ν β}
    {steps others : List SetupStep} {value : α} {result : β}
    (firstFollows : Follows surroundings first steps value)
    (secondFollows : Follows surroundings (second value) others result) :
    Follows surroundings (fun world => (first world).andThen second) (steps ++ others) result := by
  intro world
  obtain ⟨answered, moved⟩ := firstFollows world
  rw [Surroundings.performAll_append]
  cases taken : surroundings.performAll steps world with
  | mk answer after =>
      rw [taken] at answered moved
      cases answer with
      | ok =>
          obtain ⟨laterAnswered, laterMoved⟩ := Stage.andThen_of_ok answered second
          obtain ⟨secondAnswered, secondMoved⟩ := secondFollows after
          rw [moved] at laterAnswered laterMoved
          exact ⟨laterAnswered.trans secondAnswered, laterMoved.trans secondMoved⟩
      | error error =>
          obtain ⟨laterAnswered, laterMoved⟩ := Stage.andThen_of_error answered second
          exact ⟨laterAnswered, laterMoved.trans moved⟩

theorem andThenStay {first : World ν → Stage ν α} {second : α → World ν → Stage ν β}
    {steps : List SetupStep} (value : α) {result : β}
    (firstFollows : Follows surroundings first steps value)
    (secondStays : Follows surroundings (second value) [] result) :
    Follows surroundings (fun world => (first world).andThen second) steps result := by
  have together := firstFollows.andThen secondStays
  rwa [List.append_nil] at together

variable (surroundings)

theorem connectArango (settings : Arango.Settings) :
    Follows surroundings
      (fun world => .ofReply (Arango.connect surroundings.network settings world.outside) world)
      [.version settings.connection.versionRequest] settings.connection := by
  intro world
  rw [Surroundings.performAll_singleton]
  unfold Arango.connect
  generalize settings.connection = connection
  simp only [Surroundings.perform, Stage.ofReply]
  cases Arango.ask surroundings.network connection.versionRequest
    (Json.readValue Json.maxDepth) world.outside with
  | mk answer outside => cases answer <;> exact ⟨rfl, rfl⟩

theorem connectTypesense (settings : Typesense.Settings) :
    Follows surroundings
      (fun world => .ofReply (Typesense.connect surroundings.network settings world.outside) world)
      [.listing settings.connection.collectionsRequest] settings.connection := by
  intro world
  rw [Surroundings.performAll_singleton]
  unfold Typesense.connect
  generalize settings.connection = connection
  simp only [Surroundings.perform, Stage.ofReply]
  cases surroundings.network.send connection.collectionsRequest world.outside with
  | mk answer outside => cases answer <;> exact ⟨rfl, rfl⟩

theorem provision (creations : List Arango.Creation) :
    Follows surroundings
      (fun world => .ofReply (Arango.provision surroundings.network creations world.outside) world)
      ((creations.map Arango.Creation.request).map .creation) () := by
  -- in every world, as each answer leaves another one to the requests behind it
  induction creations with
  | nil => exact fun _ => ⟨rfl, rfl⟩
  | cons first later inductionHypothesis =>
      intro world
      simp only [List.map_cons, Surroundings.performAll, Surroundings.perform, Stage.ofReply]
      cases created : surroundings.network.create first.request world.outside with
      | mk answer outside =>
          have isAnswer : (surroundings.network.create first.request world.outside).1 = answer :=
            congrArg Prod.fst created
          cases answer with
          | ok =>
              obtain ⟨answered, moved⟩ := Arango.provision_cons_of_ok isAnswer later
              rw [answered, moved, created]
              exact inductionHypothesis { world with outside }
          | error =>
              obtain ⟨answered, moved⟩ := Arango.provision_cons_of_error isAnswer later
              rw [answered, moved, created]
              exact ⟨rfl, rfl⟩

/-- What is told of a search collection depends on whether it was there, but nothing else does. -/
theorem ensureCollection (connection : Typesense.Connection) (collection : String)
    (message : Http.Provisioned → Message) :
    Follows surroundings
      (fun world => (Stage.ofReply (connection.ensureCollection surroundings.network collection
        world.outside) world).andThen fun outcome => .tell (message outcome))
      [.creation (connection.collectionRequest collection)] () := by
  intro world
  rw [Surroundings.performAll_singleton]
  simp only [Surroundings.perform, Typesense.Connection.ensureCollection, Stage.ofReply]
  cases surroundings.network.create (connection.collectionRequest collection) world.outside with
  | mk answer outside => cases answer <;> exact ⟨rfl, rfl⟩

end Stage.Follows

/-! ## Opening destinations -/

namespace Surroundings

variable (surroundings : Surroundings ν)

def graphDestination (options : WriteOptions) (target : GraphTarget) : Destination (World ν) :=
  match options.store with
  | some directory =>
      (World.database surroundings.disk (settledPath (joinPath directory "graph"))).destination
  | none => World.remoteDestination (target.settings.connection.destination surroundings.network)

def searchDestination (options : WriteOptions) (target : SearchTarget) : Destination (World ν) :=
  match options.store with
  | some directory =>
      (World.database surroundings.disk (settledPath (joinPath directory "search"))).destination
  | none => World.remoteDestination (target.settings.connection.destination surroundings.network)

def destinations (options : WriteOptions) (graph : Option GraphTarget)
    (search : Option SearchTarget) : Opened ν where
  graph := graph.map fun target => (target, surroundings.graphDestination options target)
  search := search.map fun target => (target, surroundings.searchDestination options target)

theorem openLocal_follows (directory entry content : String) :
    Stage.Follows surroundings (surroundings.openLocal directory entry content)
      [.opening (joinPath directory entry)]
      (World.database surroundings.disk (settledPath (joinPath directory entry))).destination := by
  intro world
  rw [performAll_singleton]
  simp only [openLocal, perform, Stage.ofReply, Stage.andThen]
  cases (surroundings.openStore (joinPath directory entry) world.outside).answer <;>
    exact ⟨rfl, rfl⟩

theorem openArango_follows (skipSetup : Bool) (target : GraphTarget) :
    Stage.Follows surroundings (surroundings.openArango skipSetup target)
      ([.version target.settings.connection.versionRequest] ++ if skipSetup then [] else
        ((target.settings.connection.creations target.graph).map Arango.Creation.request).map
          .creation)
      (World.remoteDestination (target.settings.connection.destination surroundings.network)) := by
  -- what is connected to follows from the settings alone
  refine (Stage.Follows.connectArango surroundings target.settings).andThen ?_
  generalize target.settings.connection = connection
  refine .andThenStay () ?_ (.pure _)
  cases skipSetup with
  | true => exact Stage.Follows.tell _
  | false =>
      refine .andThenStay () ?_ (.tell _)
      simp only [Arango.Connection.ensureSchema_eq]
      exact Stage.Follows.provision surroundings (connection.creations target.graph)

theorem openTypesense_follows (skipSetup : Bool) (target : SearchTarget) :
    Stage.Follows surroundings (surroundings.openTypesense skipSetup target)
      ([.listing target.settings.connection.collectionsRequest] ++ if skipSetup then [] else
        [target.settings.connection.collectionRequest target.collection].map .creation)
      (World.remoteDestination (target.settings.connection.destination surroundings.network)) := by
  refine (Stage.Follows.connectTypesense surroundings target.settings).andThen ?_
  generalize target.settings.connection = connection
  refine .andThenStay () ?_ (.pure _)
  cases skipSetup with
  | true => exact Stage.Follows.tell _
  | false => exact Stage.Follows.ensureCollection surroundings connection target.collection _

theorem openGraph_follows (options : WriteOptions) (target : GraphTarget) :
    Stage.Follows surroundings (surroundings.openGraph options target)
      (options.graphSetup target) (surroundings.graphDestination options target) := by
  unfold openGraph WriteOptions.graphSetup WriteOptions.setup graphDestination
  cases options.store with
  | some directory => exact surroundings.openLocal_follows directory "graph" "graph"
  | none => exact surroundings.openArango_follows options.skipSetup target

theorem openSearch_follows (options : WriteOptions) (target : SearchTarget) :
    Stage.Follows surroundings (surroundings.openSearch options target)
      (options.searchSetup target) (surroundings.searchDestination options target) := by
  unfold openSearch WriteOptions.searchSetup WriteOptions.setup searchDestination
  cases options.store with
  | some directory => exact surroundings.openLocal_follows directory "search" "search documents"
  | none => exact surroundings.openTypesense_follows options.skipSetup target

theorem openAll_follows (options : WriteOptions) (graph : Option GraphTarget)
    (search : Option SearchTarget) :
    Stage.Follows surroundings (surroundings.openAll options graph search)
      (Command.write options graph search).setup
      (surroundings.destinations options graph search) := by
  have graphFollows : Stage.Follows surroundings
      (openIfAny (surroundings.openGraph options) graph) (graph.elim [] options.graphSetup)
      (surroundings.destinations options graph search).graph := by
    cases graph with
    | none => exact .pure _
    | some target => exact (surroundings.openGraph_follows options target).andThenStay _ (.pure _)
  have searchFollows : Stage.Follows surroundings
      (openIfAny (surroundings.openSearch options) search) (search.elim [] options.searchSetup)
      (surroundings.destinations options graph search).search := by
    cases search with
    | none => exact .pure _
    | some target => exact (surroundings.openSearch_follows options target).andThenStay _ (.pure _)
  exact graphFollows.andThen (searchFollows.andThenStay _ (.pure _))

/-! ## Sessions -/

variable {surroundings} {options : WriteOptions} {graph : Option GraphTarget}
  {search : Option SearchTarget} {world after : World ν} {entities : EntityGraph}

theorem run_of_unloaded {command : Command} {error : LoadError}
    (failed : surroundings.load command.input = .error error) (world : World ν) :
    surroundings.run command world =
      { world, messages := [], failure := some (.load error) } := by
  simp only [run, failed]

theorem run_of_unready {error : DeliveryError}
    (loaded : surroundings.load options.input = .ok entities)
    (failed : surroundings.performAll (Command.write options graph search).setup world =
      (.error error, after)) :
    let outcome := surroundings.run (.write options graph search) world
    outcome.world = after ∧ outcome.summary = none ∧
      outcome.failure = some (.delivery error) := by
  obtain ⟨answered, moved⟩ := surroundings.openAll_follows options graph search world
  rw [failed] at answered moved
  have isError : (surroundings.openAll options graph search world).answer = .error error := answered
  simp only [run, Command.input, loaded, carryOut, isError, moved, and_self]

/-- Once all is ready, what comes of a session is what comes of its runs. -/
theorem run_of_ready (loaded : surroundings.load options.input = .ok entities)
    (ready : surroundings.performAll (Command.write options graph search).setup world =
      (.ok (), after)) :
    let outcome := surroundings.run (.write options graph search) world
    let written :=
      entities.writeAll options (surroundings.destinations options graph search) after
    outcome.world = written.state ∧ outcome.summary = some written.summary ∧
      outcome.failure = strictFailure? options.strict written.summary := by
  obtain ⟨answered, moved⟩ := surroundings.openAll_follows options graph search world
  rw [ready] at answered moved
  have opened : (surroundings.openAll options graph search world).answer =
      .ok (surroundings.destinations options graph search) := answered
  have sameWorld : (surroundings.openAll options graph search world).world = after := moved
  simp only [run, Command.input, loaded, carryOut, opened, sameWorld, and_self]

end Surroundings

end CodeGraph
