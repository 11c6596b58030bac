import CodeGraph.KeyMap
import CodeGraph.Json.Number
import CodeGraph.Json.Quote

/-!
# Readers of typed values

A reader of a type says what it found where a value of another type stands.  A scalar found counts
as passed; of a list or an object nothing does.
-/

set_option autoImplicit false

namespace CodeGraph.Json

/-- Passes blanks, behind which a value has to begin. -/
def valueStart (c : Cursor) : Except Fault Cursor :=
  let c := c.skipBlanks
  match c.rest with
  | [] => .error (c.faultAhead .endOfValue)
  | _ => .ok c

/-- Reads what begins at the cursor as something of the wrong type. -/
def readFound : Reader Found := fun c =>
  match c.rest with
  | 'n' :: _ => do
      let c ← readLetters ['u', 'l', 'l'] c.next
      return (.null, c)
  | 't' :: _ => do
      let c ← readLetters ['r', 'u', 'e'] c.next
      return (.bool true, c)
  | 'f' :: _ => do
      let c ← readLetters ['a', 'l', 's', 'e'] c.next
      return (.bool false, c)
  | '-' :: _ => do
      let (number, c) ← readNumber true c.next
      return (number.found, c)
  | '"' :: _ => do
      let (text, c) ← readQuoted c.next
      return (.text text, c)
  | '[' :: _ => .ok (.sequence, c)
  | '{' :: _ => .ok (.map, c)
  | first :: _ =>
      if first.isDigit then do
        let (number, c) ← readNumber false c
        return (number.found, c)
      else
        .error (c.faultAhead .expectedValue)
  | [] => .error (c.faultAhead .expectedValue)

def refuse {α : Type} (expected : String) : Reader α := fun c => do
  let (found, c) ← readFound c
  throw (c.fault (.wrongType found expected))

def readOption {α : Type} (reader : Reader α) : Reader (Option α) := fun c =>
  let c := c.skipBlanks
  match c.rest with
  | 'n' :: _ => do
      let c ← readLetters ['u', 'l', 'l'] c.next
      return (none, c)
  | _ => do
      let (value, c) ← reader c
      return (some value, c)

def readBool : Reader Bool := fun c => do
  let c ← valueStart c
  match c.rest with
  | 't' :: _ =>
      let c ← readLetters ['r', 'u', 'e'] c.next
      return (true, c)
  | 'f' :: _ =>
      let c ← readLetters ['a', 'l', 's', 'e'] c.next
      return (false, c)
  | _ => refuse "a boolean" c

def readText : Reader String := fun c => do
  let c ← valueStart c
  match c.rest with
  | '"' :: _ => readQuoted c.next
  | _ => refuse "a string" c

/-- Reads a whole number from zero to less than a bound, which messages call by the name of the
type. -/
def readBelow (bound : Nat) (expected : String) : Reader Nat := fun c => do
  let c ← valueStart c
  let accept : Number → Reader Nat := fun number c =>
    match number with
    | .whole value =>
        if 0 ≤ value ∧ value < bound then .ok (value.toNat, c)
        else .error (c.fault (.wrongValue value expected))
    | .real value => .error (c.fault (.wrongType (.real value) expected))
  match c.rest with
  | '-' :: _ =>
      let (number, c) ← readNumber true c.next
      accept number c
  | first :: _ =>
      if first.isDigit then
        let (number, c) ← readNumber false c
        accept number c
      else
        refuse expected c
  | [] => refuse expected c

def readWord : Reader UInt32 := fun c => do
  let (value, c) ← readBelow UInt32.size "u32" c
  return (UInt32.ofNat value, c)

def readCount : Reader UInt64 := fun c => do
  let (value, c) ← readBelow UInt64.size "usize" c
  return (UInt64.ofNat value, c)

def nextItem (isFirst : Bool) : Reader Bool := fun c =>
  let c := c.skipBlanks
  match c.rest with
  | [] => .error (c.faultAhead .endOfList)
  | ']' :: _ => .ok (false, c)
  | first :: _ =>
      if isFirst then
        .ok (true, c)
      else if first = ',' then
        let c := c.next.skipBlanks
        match c.rest with
        | [] => .error (c.faultAhead .endOfValue)
        | ']' :: _ => .error (c.faultAhead .trailingComma)
        | _ => .ok (true, c)
      else
        .error (c.faultAhead .expectedCommaOrBracket)

/-- Moves behind the opening quote of the next name of an object, or to the closing brace and then
gives `false`. -/
def nextName (isFirst : Bool) : Reader Bool := fun c =>
  let c := c.skipBlanks
  match c.rest with
  | [] => .error (c.faultAhead .endOfObject)
  | '}' :: _ => .ok (false, c)
  | first :: _ =>
      if isFirst then
        if first = '"' then .ok (true, c.next) else .error (c.faultAhead .keyNotString)
      else if first = ',' then
        let c := c.next.skipBlanks
        match c.rest with
        | '"' :: _ => .ok (true, c.next)
        | '}' :: _ => .error (c.faultAhead .trailingComma)
        | [] => .error (c.faultAhead .endOfValue)
        | _ => .error (c.faultAhead .keyNotString)
      else
        .error (c.faultAhead .expectedCommaOrBrace)

/-- Reads the items of a list up to its closing bracket, from behind the opening one.  Each takes
at least one character, so the text itself counts enough rounds. -/
def readItems {α : Type} (item : Reader α) : List Char → Bool → Reader (List α)
  | [], _, c => .error (c.fault .endOfList)
  | _ :: rounds, isFirst, c => do
      let (more, c) ← nextItem isFirst c
      if more then
        let (first, c) ← item c
        let (later, c) ← readItems item rounds false c
        return (first :: later, c)
      else
        return ([], c)

/-- Reads the members of an object up to its closing brace, from behind the opening one, into a
state.  A member's reader begins behind the name.  Each takes at least one character, so the text
itself counts enough rounds. -/
def readMembers {σ : Type} (member : σ → String → Reader σ) : List Char → Bool → σ → Reader σ
  | [], _, _, c => .error (c.fault .endOfObject)
  | _ :: rounds, isFirst, state, c => do
      let (more, c) ← nextName isFirst c
      if more then
        let (name, c) ← readQuoted c
        let (state, c) ← member state name c
        readMembers member rounds false state c
      else
        return (state, c)

def closeList (c : Cursor) : Except Fault Cursor :=
  let c := c.skipBlanks
  match c.rest with
  | ']' :: _ => .ok c.next
  | ',' :: _ =>
      let c := c.next.skipBlanks
      match c.rest with
      | ']' :: _ => .error (c.faultAhead .trailingComma)
      | _ => .error (c.faultAhead .trailingCharacters)
  | [] => .error (c.faultAhead .endOfList)
  | _ => .error (c.faultAhead .trailingCharacters)

def readList {α : Type} (item : Reader α) : Reader (List α) := fun c => do
  let c ← valueStart c
  match c.rest with
  | '[' :: _ =>
      let (items, c) ← readItems item c.rest true c.next
      let c ← closeList c
      return (items, c)
  | _ => refuse "a sequence" c

/-- Reads an object as a map, in which the last value of a name counts. -/
def readMap {α : Type} (item : Reader α) : Reader (KeyMap α) := fun c => do
  let c ← valueStart c
  match c.rest with
  | '{' :: _ =>
      let member : KeyMap α → String → Reader (KeyMap α) := fun map name c => do
        let c ← readColon c
        let (value, c) ← item c
        return (map.insert name value, c)
      let (map, c) ← readMembers member c.rest true .empty c.next
      return (map, c.next)
  | _ => refuse "a map" c

structure Variants (α : Type) where
  /-- The constants in the order in which messages list them. -/
  table : List (String × α)
  /-- The constant that stands for every name outside the table. -/
  other? : Option α

namespace Variants

variable {α : Type}

def resolve (variants : Variants α) (name : String) (c : Cursor) : Except Fault α :=
  match variants.table.lookup name, variants.other? with
  | some constant, _ => .ok constant
  | none, some constant => .ok constant
  | none, none => .error (c.fault (.unknownVariant name (variants.table.map Prod.fst)))

def readUnit : Reader Unit := fun c => do
  let c ← valueStart c
  match c.rest with
  | 'n' :: _ =>
      let c ← readLetters ['u', 'l', 'l'] c.next
      return ((), c)
  | _ => refuse "unit" c

/-- Reads a constant: its name, or an object that has the name as its only member and null as the
value. -/
def read (variants : Variants α) : Reader α := fun c => do
  let c ← valueStart c
  match c.rest with
  | '"' :: _ =>
      let (name, c) ← readQuoted c.next
      let constant ← variants.resolve name c
      return (constant, c)
  | '{' :: _ =>
      let (named, c) ← nextName true c.next
      if !named then
        throw (c.faultAhead .expectedValue)
      let (name, c) ← readQuoted c
      let constant ← variants.resolve name c
      let c ← readColon c
      let (_, c) ← readUnit c
      let c := c.skipBlanks
      match c.rest with
      | '}' :: _ => return (constant, c.next)
      | [] => throw (c.fault .endOfObject)
      | _ => throw (c.fault .expectedValue)
  | _ => throw (c.faultAhead .expectedValue)

end Variants

end CodeGraph.Json
