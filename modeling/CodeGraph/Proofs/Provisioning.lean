import CodeGraph.Arango
import CodeGraph.Proofs.Schema

/-!
# What provisioning asks for

The requests that a network exchanges are observed by recording them.  Objects that are created one
after the other have all been asked for once the whole succeeds.
-/

set_option autoImplicit false

namespace CodeGraph

variable {μ ν : Type}

namespace Http

def Network.recorded (network : Network ν) : Network (List Request × ν) where
  clock := network.clock
  client := network.client
  exchange := fun request state =>
    let (answer, later) := network.exchange request state.2
    (answer, (request :: state.1, later))

def outcomeOf : Except Fault Response → Except Fault Provisioned
  | .ok _ => .ok .created
  | .error (.status code) =>
      if code = conflictStatus then .ok .existing else .error (.status code)
  | .error fault => .error fault

theorem Network.create_eq (network : Network ν) (request : Request) (state : ν) :
    network.create request state =
      (outcomeOf (network.send request state).1, (network.send request state).2) := by
  unfold create
  cases network.send request state with
  | mk answer later =>
      cases answer with
      | ok => rfl
      | error fault =>
          cases fault with
          | status code => by_cases conflict : code = conflictStatus <;> simp [outcomeOf, conflict]
          | _ => rfl

/-- A network that answers like another one, whose state is a part of its own. -/
structure Network.Over (network : Network μ) (base : Network ν) (part : μ → ν) : Prop where
  clock : network.clock = base.clock
  client : network.client = base.client
  exchange : ∀ request state,
    (network.exchange request state).map id part = base.exchange request (part state)

namespace Network.Over

variable {network : Network μ} {base : Network ν} {part : μ → ν}

theorem send (isOver : network.Over base part) (request : Request) (state : μ) :
    (network.send request state).map id part = base.send request (part state) := by
  unfold Network.send
  rw [isOver.clock, isOver.client]
  cases base.client.check request base.clock with
  | error => rfl
  | ok => exact congrArg (Prod.map (·.bind base.client.accept) id) (isOver.exchange request state)

theorem create (isOver : network.Over base part) (request : Request) (state : μ) :
    (network.create request state).map id part = base.create request (part state) := by
  rw [create_eq, create_eq, ← isOver.send]
  rfl

end Network.Over

theorem Network.recorded_over (network : Network ν) : network.recorded.Over network Prod.snd :=
  ⟨rfl, rfl, fun _ _ => rfl⟩

end Http

theorem Reply.andThen_assoc {α β γ : Type} (first : Reply ν α) (second : α → ν → Reply ν β)
    (third : β → ν → Reply ν γ) :
    (first.andThen second).andThen third =
      first.andThen fun value state => (second value state).andThen third := by
  cases first with
  | mk answer state events =>
      cases answer with
      | error => rfl
      | ok value =>
          simp only [andThen]
          cases (second value state).answer with
          | error => rfl
          | ok => simp only [List.append_assoc]

namespace Arango

open Http (Network Request)

/-! ## One object after the other -/

structure Creation where
  request : Request
  label : String

def Connection.creations (connection : Connection) (graph : String) : List Creation :=
  ⟨connection.databaseRequest, "database: " ++ connection.database⟩
    :: (NodeClass.all.map fun nodeClass =>
      ⟨connection.collectionRequest nodeClass.name documentType,
        "collection: " ++ nodeClass.name⟩)
    ++ (EdgeClass.all.map fun edgeClass =>
      ⟨connection.collectionRequest edgeClass.name edgeType,
        "collection: " ++ edgeClass.name⟩)
    ++ [⟨connection.graphRequest graph, "graph: " ++ graph⟩]

/-- Creates objects one after the other, up to the first that cannot be had. -/
def provision (network : Network ν) (creations : List Creation) : ν → Reply ν Unit :=
  ensureEach (fun creation => ensure network creation.request creation.label) creations

theorem ensureEach_map {κ ι : Type} (ensureOne : κ → ν → Reply ν Unit) (name : ι → κ)
    (items : List ι) :
    ensureEach ensureOne (items.map name) =
      ensureEach (fun item => ensureOne (name item)) items := by
  funext state
  induction items generalizing state with
  | nil => rfl
  | cons first later inductionHypothesis =>
      simp only [List.map_cons, ensureEach, Reply.andThen, inductionHypothesis]

theorem ensureEach_append {κ : Type} (ensureOne : κ → ν → Reply ν Unit) (first second : List κ) :
    ensureEach ensureOne (first ++ second) =
      fun state =>
        (ensureEach ensureOne first state).andThen fun _ => ensureEach ensureOne second := by
  funext state
  induction first generalizing state with
  | nil => rfl
  | cons item later inductionHypothesis =>
      rw [List.cons_append, ensureEach, ensureEach, Reply.andThen_assoc]
      congr 1
      funext _
      exact funext inductionHypothesis

theorem ensureEach_singleton {κ : Type} (ensureOne : κ → ν → Reply ν Unit) (item : κ) :
    ensureEach ensureOne [item] = ensureOne item := by
  funext state
  simp only [ensureEach, Reply.andThen]
  cases ensureOne item state with
  | mk answer after events => cases answer <;> simp

/-- The four sites of provisioning ask for the objects of one list. -/
theorem Connection.ensureSchema_eq (connection : Connection) (network : Network ν)
    (graph : String) (state : ν) :
    connection.ensureSchema network graph state =
      provision network (connection.creations graph) state := by
  rw [creations, provision, ensureEach_append, ensureEach_append, ensureEach_singleton]
  simp only [ensureEach, ensureEach_map, Reply.andThen_assoc]
  rfl

section Provision

variable {network : Network ν} {first : Creation}

theorem provision_cons_of_ok {state : ν} {outcome : Http.Provisioned}
    (had : (network.create first.request state).1 = .ok outcome) (later : List Creation) :
    (provision network (first :: later) state).answer =
        (provision network later (network.create first.request state).2).answer ∧
      (provision network (first :: later) state).state =
        (provision network later (network.create first.request state).2).state := by
  simp only [provision, ensureEach, ensure, Reply.andThen]
  cases created : network.create first.request state with
  | mk answer afterwards =>
      rw [created] at had
      cases had
      exact ⟨rfl, rfl⟩

theorem provision_cons_of_error {state : ν} {fault : Http.Fault}
    (failed : (network.create first.request state).1 = .error fault) (later : List Creation) :
    (provision network (first :: later) state).answer = .error (.http fault) ∧
      (provision network (first :: later) state).state =
        (network.create first.request state).2 := by
  simp only [provision, ensureEach, ensure, Reply.andThen]
  cases created : network.create first.request state with
  | mk answer afterwards =>
      rw [created] at failed
      cases failed
      exact ⟨rfl, rfl⟩

end Provision

end Arango

end CodeGraph
