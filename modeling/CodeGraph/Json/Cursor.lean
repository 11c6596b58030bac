import CodeGraph.Json.Fault

/-!
# Reading a JSON text

A cursor is the rest of a text and the place it begins at.  A reader takes a value off a cursor or
gives a fault.
-/

set_option autoImplicit false

namespace CodeGraph.Json

/-- What is left of a text, and where it begins. -/
structure Cursor where
  rest : List Char
  position : Position

abbrev Reader (α : Type) := Cursor → Except Fault (α × Cursor)

/-- The four characters that may stand between the parts of a JSON text. -/
def isJsonBlank (c : Char) : Bool :=
  c = ' ' || c = '\t' || c = '\n' || c = '\r'

namespace Cursor

def ofText (text : List Char) : Cursor := ⟨text, .start⟩

def next (c : Cursor) : Cursor :=
  match c.rest with
  | [] => c
  | first :: rest => ⟨rest, c.position.after first⟩

def fault (c : Cursor) (cause : Cause) : Fault := ⟨cause, c.position⟩

/-- A fault that the next byte gives: the place counts it as passed. -/
def faultAhead (c : Cursor) (cause : Cause) : Fault :=
  match c.rest with
  | [] => ⟨cause, c.position⟩
  | first :: _ => ⟨cause, c.position.afterByte first⟩

def skipFrom (test : Char → Bool) : List Char → Position → Cursor
  | [], p => ⟨[], p⟩
  | c :: rest, p => if test c then skipFrom test rest (p.after c) else ⟨c :: rest, p⟩

def skipWhile (c : Cursor) (test : Char → Bool) : Cursor :=
  skipFrom test c.rest c.position

def skipBlanks (c : Cursor) : Cursor :=
  c.skipWhile isJsonBlank

/-- The cursor behind blanks and a closing bracket, if one follows them. -/
def settle (c : Cursor) (bracket : Char) : Cursor :=
  let ahead := c.skipBlanks
  if ahead.rest.head? = some bracket then ahead.next else ahead

end Cursor

def readLetters : List Char → Cursor → Except Fault Cursor
  | [], c => .ok c
  | letter :: later, c =>
      match c.rest with
      | [] => .error (c.fault .endOfValue)
      | first :: _ =>
          if first = letter then readLetters later c.next
          else .error (c.faultAhead .expectedIdent)

def readColon (c : Cursor) : Except Fault Cursor :=
  let c := c.skipBlanks
  match c.rest with
  | ':' :: _ => .ok c.next
  | [] => .error (c.faultAhead .endOfObject)
  | _ => .error (c.faultAhead .expectedColon)

def readAll {α : Type} (reader : Reader α) (text : List Char) : Except Fault α := do
  let (value, c) ← reader (.ofText text)
  let c := c.skipBlanks
  match c.rest with
  | [] => return value
  | _ => throw (c.faultAhead .trailingCharacters)

end CodeGraph.Json
