import CodeGraph.KeyMap

/-!
# JSON values

The members of an object stand in increasing order of their names, each name once.
-/

set_option autoImplicit false

namespace CodeGraph.Json

/-- A JSON value.  Whole numbers of 64 bits are kept exactly, all other numbers as doubles. -/
inductive Value where
  | null
  | bool (value : Bool)
  | whole (value : Int)
  | real (value : Float)
  | text (value : String)
  | array (items : List Value)
  | object (members : List (String × Value))

namespace Value

/-- The object of a list of members, of which the last with a name counts. -/
def ofMembers (members : List (String × Value)) : Value :=
  .object (KeyMap.ofList members).entries

def ofNat (value : Nat) : Value :=
  .whole value

def ofCounts (counts : KeyMap Nat) : Value :=
  .object (counts.entries.map fun entry => (entry.1, ofNat entry.2))

def ofText? (value : Option String) : Value :=
  value.elim null text

def ofWord (value : UInt32) : Value :=
  .whole value.toNat

def ofWord? (value : Option UInt32) : Value :=
  value.elim null ofWord

def member? (value : Value) (name : String) : Option Value :=
  match value with
  | object members => members.lookup name
  | _ => none

def text? : Value → Option String
  | text value => some value
  | _ => none

def present (name : String) (value : Value) : List (String × Value) :=
  [(name, value)]

def optional {α : Type} (name : String) (encode : α → Value) (value : Option α) :
    List (String × Value) :=
  value.elim [] fun content => [(name, encode content)]

end Value

end CodeGraph.Json
