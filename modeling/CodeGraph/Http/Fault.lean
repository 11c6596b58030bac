import CodeGraph.Json.Fault

/-!
# Faults of an exchange with a server
-/

set_option autoImplicit false

namespace CodeGraph.Http

inductive AddressFault where
  | invalidCharacter
  | invalidAuthority
  | invalidFormat
  | tooLong
  deriving DecidableEq

def AddressFault.message : AddressFault → String
  | invalidCharacter => "invalid uri character"
  | invalidAuthority => "invalid authority"
  | invalidFormat => "invalid format"
  | tooLong => "uri too long"

inductive Fault where
  | status (code : Nat)
  /-- The body of the answer is not the expected JSON text. -/
  | body (fault : Json.Fault)
  | address (fault : AddressFault)
  | header
  /-- The time limit is over before anything is sent. -/
  | timedOut
  /-- The time limit leads beyond the end of the clock. -/
  | limitOverflow
  | unreachable

def Fault.message : Fault → String
  | status code => "http status: " ++ toString code
  | body fault => "json: " ++ fault.message
  | address fault => "http: " ++ fault.message
  | header => "http: failed to parse header value"
  | timedOut => "timeout: global"
  | limitOverflow => "overflow when adding duration to instant"
  | unreachable => "io: Network is unreachable (os error 101)"

end CodeGraph.Http
