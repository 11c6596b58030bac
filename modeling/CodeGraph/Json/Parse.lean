import CodeGraph.Json.Reader
import CodeGraph.Json.Value

/-!
# Reading any JSON value

Lists and objects may nest up to a depth.  A name that comes again in an object replaces the
earlier member.
-/

set_option autoImplicit false

namespace CodeGraph.Json

/-- How deep lists and objects may nest in a value that is kept. -/
def maxDepth : Nat := 127

def Number.toValue : Number → Value
  | whole value => .whole value
  | real value => .real value

def readScalar : Reader Value := fun c =>
  match c.rest with
  | 'n' :: _ => do
      let c ← readLetters ['u', 'l', 'l'] c.next
      return (.null, c)
  | 't' :: _ => do
      let c ← readLetters ['r', 'u', 'e'] c.next
      return (.bool true, c)
  | 'f' :: _ => do
      let c ← readLetters ['a', 'l', 's', 'e'] c.next
      return (.bool false, c)
  | '-' :: _ => do
      let (number, c) ← readNumber true c.next
      return (number.toValue, c)
  | '"' :: _ => do
      let (text, c) ← readQuoted c.next
      return (.text text, c)
  | first :: _ =>
      if first.isDigit then do
        let (number, c) ← readNumber false c
        return (number.toValue, c)
      else
        .error (c.faultAhead .expectedValue)
  | [] => .error (c.faultAhead .endOfValue)

def readValue : Nat → Reader Value
  | 0, c =>
      let c := c.skipBlanks
      match c.rest with
      | '[' :: _ | '{' :: _ => .error (c.faultAhead .recursionLimit)
      | _ => readScalar c
  | depth + 1, c =>
      let c := c.skipBlanks
      match c.rest with
      | '[' :: _ => do
          let (items, c) ← readItems (fun c => readValue depth c) c.rest true c.next
          let c ← closeList c
          return (.array items, c)
      | '{' :: _ => do
          let member : KeyMap Value → String → Reader (KeyMap Value) := fun members name c => do
            let c ← readColon c
            let (value, c) ← readValue depth c
            return (members.insert name value, c)
          let (members, c) ← readMembers member c.rest true .empty c.next
          return (.object members.entries, c.next)
      | _ => readScalar c

def parse (text : List Char) : Except Fault Value :=
  readAll (readValue maxDepth) text

end CodeGraph.Json
