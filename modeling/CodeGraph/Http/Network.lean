import CodeGraph.Http.Client

/-!
# Networks

A network answers requests, one after the other.  Requests that the client cannot send do not reach
it.
-/

set_option autoImplicit false

namespace CodeGraph.Http

/-- A way to exchange a request for the last answer to it, with a state of type `ν`, the client that
sends the requests, and the seconds on the clock that time limits are counted by. -/
structure Network (ν : Type) where
  clock : Nat
  client : Client := .standard
  exchange : Request → ν → Except Fault Response × ν

def Network.send {ν : Type} (network : Network ν) (request : Request) (state : ν) :
    Except Fault Response × ν :=
  match network.client.check request network.clock with
  | .error fault => (.error fault, state)
  | .ok () =>
      let (answer, state) := network.exchange request state
      (answer.bind network.client.accept, state)

inductive Provisioned where
  | created
  | existing
  deriving DecidableEq

def conflictStatus : Nat := 409

/-- Sends a request that creates an object.  One that is there already is as good. -/
def Network.create {ν : Type} (network : Network ν) (request : Request) (state : ν) :
    Except Fault Provisioned × ν :=
  match network.send request state with
  | (.ok _, state) => (.ok .created, state)
  | (.error (.status code), state) =>
      if code = conflictStatus then (.ok .existing, state) else (.error (.status code), state)
  | (.error fault, state) => (.error fault, state)

def Network.unreachable (clock : Nat) : Network Unit where
  clock
  exchange := fun _ state => (.error .unreachable, state)

structure Script where
  answers : List Response := []
  requests : Array Request := #[]

def Script.plainAnswer : Response := ⟨200, "\x7b\x7d"⟩

def Network.scripted (clock : Nat) : Network Script where
  clock
  exchange := fun request script =>
    (.ok (script.answers.head?.getD Script.plainAnswer),
      { answers := script.answers.tail, requests := script.requests.push request })

end CodeGraph.Http
