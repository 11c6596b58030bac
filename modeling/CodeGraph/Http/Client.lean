import CodeGraph.Http.Target
import CodeGraph.Json.Value

/-!
# Requests and clients

Requests are sent by a client, a library that sees whether they can be sent at all, follows
redirects and tells of the last answer whether it is one of success.  What is trusted of a client is
part of it.  `Client.standard` is one with the rules of addresses in `Target.ofUrl`.
-/

set_option autoImplicit false

namespace CodeGraph.Http

inductive Method where
  | get
  | post
  deriving DecidableEq

def Method.name : Method → String
  | get => "GET"
  | post => "POST"

inductive Body where
  | empty
  | json (value : Json.Value)
  | plain (text : String)

def Body.contentType? : Body → Option String
  | empty => none
  | json _ => some "application/json; charset=utf-8"
  | plain _ => some "text/plain"

def defaultTimeLimit : Nat := 10

structure Request where
  method : Method
  url : String
  credentials : String × String
  body : Body := .empty
  timeLimit : Nat := defaultTimeLimit

structure Response where
  status : Nat
  body : String
  deriving DecidableEq

def isHeaderChar (c : Char) : Bool :=
  c = '\t' || (c.toNat ≥ 0x20 && c ≠ '\x7f')

/-- The last second of a clock that counts them in 64 bits with a sign. -/
def lastSecond : Nat := 9223372036854775807

/-- Whether there is time for a request: some at all, and its end while the clock still counts. -/
def Request.checkTime (request : Request) (now : Nat) : Except Fault Unit :=
  if request.timeLimit = 0 then .error .timedOut
  else if lastSecond < now + request.timeLimit then .error .limitOverflow
  else .ok ()

/-- Whether a request can be sent at a time, or what is wrong with it.  The address counts before
the header, and the header before the time limit. -/
def Request.check (request : Request) (now : Nat) : Except Fault Unit :=
  match Target.ofUrl request.url with
  | .error fault => .error (.address fault)
  | .ok _ =>
      if !request.credentials.2.toList.all isHeaderChar then .error .header
      else request.checkTime now

def leastErrorStatus : Nat := 400

def Response.accept (response : Response) : Except Fault Response :=
  if leastErrorStatus ≤ response.status then .error (.status response.status) else .ok response

/-- A request is plain for a client if its address is one and the value of its header is text. -/
def Request.IsPlain (request : Request) : Prop :=
  (∃ target, Target.ofUrl request.url = .ok target) ∧
    request.credentials.2.toList.all isHeaderChar = true

/-- A client: whether it can send a request at a time, and what it makes of the last answer.  Of a
plain request only the time counts.  A request that is not sent has no status.  An answer is an
error by its status alone, and a redirect that could not be followed is none. -/
structure Client where
  check : Request → Nat → Except Fault Unit
  accept : Response → Except Fault Response
  check_of_isPlain : ∀ {request}, request.IsPlain → ∀ now, check request now = request.checkTime now
  check_ne_status : ∀ request now code, check request now ≠ .error (.status code)
  accept_of_error : ∀ {response}, leastErrorStatus ≤ response.status →
    accept response = .error (.status response.status)
  accept_of_success : ∀ {response}, response.status < leastErrorStatus →
    accept response = .ok response

def Client.standard : Client where
  check := Request.check
  accept := Response.accept
  check_of_isPlain := by
    rintro request ⟨⟨target, isTarget⟩, isText⟩ now
    simp [Request.check, isTarget, isText]
  check_ne_status := by
    intro request now code
    unfold Request.check Request.checkTime
    split
    · nofun
    · repeat' split
      all_goals nofun
  accept_of_error := fun isError => if_pos isError
  accept_of_success := fun isSuccess => if_neg (Nat.not_le.mpr isSuccess)

end CodeGraph.Http
