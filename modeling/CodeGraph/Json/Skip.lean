import CodeGraph.Json.Number
import CodeGraph.Json.Quote

/-!
# Values that nobody asks for

A value is checked for its syntax and passed.  The brackets that are open are kept on a stack, so
that values may nest to any depth.
-/

set_option autoImplicit false

namespace CodeGraph.Json

inductive Bracket where
  | list
  | object

def Bracket.closing : Bracket → Char
  | list => ']'
  | object => '}'

def openingBracket? (c : Cursor) : Option Bracket :=
  match c.rest with
  | '[' :: _ => some .list
  | '{' :: _ => some .object
  | _ => none

def Bracket.endOfText : Bracket → Cause
  | list => .endOfList
  | object => .endOfObject

def Bracket.expectedComma : Bracket → Cause
  | list => .expectedCommaOrBracket
  | object => .expectedCommaOrBrace

inductive Awaited where
  | value
  | afterItem

def skipName (c : Cursor) : Except Fault Cursor :=
  let c := c.skipBlanks
  match c.rest with
  | '"' :: _ => do
      let c ← skipQuoted c.next
      readColon c
  | [] => .error (c.faultAhead .endOfObject)
  | _ => .error (c.faultAhead .keyNotString)

def skipItemStart (bracket : Bracket) (c : Cursor) : Except Fault Cursor :=
  match bracket with
  | .list => .ok c
  | .object => skipName c

def skipScalar (c : Cursor) : Except Fault Cursor :=
  match c.rest with
  | [] => .error (c.faultAhead .endOfValue)
  | 'n' :: _ => readLetters ['u', 'l', 'l'] c.next
  | 't' :: _ => readLetters ['r', 'u', 'e'] c.next
  | 'f' :: _ => readLetters ['a', 'l', 's', 'e'] c.next
  | '-' :: _ => skipNumber c.next
  | '"' :: _ => skipQuoted c.next
  | first :: _ => if first.isDigit then skipNumber c else .error (c.faultAhead .expectedValue)

/-- Passes values until no bracket is open.  A round passes at least one character, so the text
itself counts enough rounds. -/
def skipOpen : List Char → List Bracket → Awaited → Cursor → Except Fault Cursor
  | _, [], .afterItem, c => .ok c
  | [], _, .value, c => .error (c.faultAhead .endOfValue)
  | [], bracket :: _, .afterItem, c => .error (c.faultAhead bracket.endOfText)
  | _ :: rounds, stack, .value, c => do
      let c := c.skipBlanks
      match openingBracket? c with
      | some bracket =>
          let c := c.next.skipBlanks
          match c.rest with
          | [] => throw (c.faultAhead bracket.endOfText)
          | first :: _ =>
              if first = bracket.closing then
                skipOpen rounds stack .afterItem c.next
              else
                let c ← skipItemStart bracket c
                skipOpen rounds (bracket :: stack) .value c
      | none =>
          let c ← skipScalar c
          skipOpen rounds stack .afterItem c
  | _ :: rounds, bracket :: outer, .afterItem, c => do
      let c := c.skipBlanks
      match c.rest with
      | [] => throw (c.faultAhead bracket.endOfText)
      | first :: _ =>
          if first = bracket.closing then
            skipOpen rounds outer .afterItem c.next
          else if first = ',' then
            let c ← skipItemStart bracket c.next
            skipOpen rounds (bracket :: outer) .value c
          else
            throw (c.faultAhead bracket.expectedComma)

def skipValue (c : Cursor) : Except Fault Cursor :=
  skipOpen c.rest [] .value c

end CodeGraph.Json
