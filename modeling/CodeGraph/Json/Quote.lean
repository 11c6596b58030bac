import CodeGraph.Json.Cursor

/-!
# Strings of a JSON text

Two readers begin behind the opening quote and end behind the closing one.  One gives the text
that the string stands for, the other passes a string whose text nobody asks for; it lets
surrogates stand alone.
-/

set_option autoImplicit false

namespace CodeGraph.Json

def shortEscape? : Char → Option Char
  | '"' => some '"'
  | '\\' => some '\\'
  | '/' => some '/'
  | 'b' => some '\x08'
  | 'f' => some '\x0c'
  | 'n' => some '\n'
  | 'r' => some '\r'
  | 't' => some '\t'
  | _ => none

def fourHex? (a b c d : Char) : Option Nat := do
  let a ← Text.hexValue? a
  let b ← Text.hexValue? b
  let c ← Text.hexValue? c
  let d ← Text.hexValue? d
  return ((a * 16 + b) * 16 + c) * 16 + d

/-- The fault of an escape without four hexadecimal digits: its four bytes count as passed, and a
text with fewer ends within the string. -/
def hexFault (c : Cursor) : Fault :=
  match c.position.afterBytes? 4 c.rest with
  | some position => ⟨.invalidEscape, position⟩
  | none => ⟨.endOfString, c.position.afterAll c.rest⟩

def readFourHex : Reader Nat := fun c =>
  match c.rest with
  | h₁ :: h₂ :: h₃ :: h₄ :: rest =>
      match fourHex? h₁ h₂ h₃ h₄ with
      | some unit => .ok (unit, ⟨rest, c.position.afterAll [h₁, h₂, h₃, h₄]⟩)
      | none => .error (hexFault c)
  | _ => .error (hexFault c)

/-- Passes a character that has to follow the first half of a surrogate pair. -/
def readPairMark (mark : Char) (c : Cursor) : Except Fault Cursor :=
  match c.rest with
  | [] => .error (c.fault .endOfString)
  | first :: _ =>
      if first = mark then .ok c.next else .error (c.faultAhead .endOfSurrogates)

def isHighSurrogate (unit : Nat) : Bool := 0xd800 ≤ unit && unit ≤ 0xdbff

def isLowSurrogate (unit : Nat) : Bool := 0xdc00 ≤ unit && unit ≤ 0xdfff

def readUnicodeEscape : Reader Char := fun c => do
  let (unit, c) ← readFourHex c
  if isLowSurrogate unit then
    throw (c.fault .loneSurrogate)
  else if isHighSurrogate unit then
    let c ← readPairMark '\\' c
    let c ← readPairMark 'u' c
    let (low, c) ← readFourHex c
    if isLowSurrogate low then
      return (Char.ofNat ((unit - 0xd800) * 0x400 + (low - 0xdc00) + 0x10000), c)
    else
      throw (c.fault .loneSurrogate)
  else
    return (Char.ofNat unit, c)

def readEscape : Reader Char := fun c =>
  match c.rest with
  | [] => .error (c.fault .endOfString)
  | 'u' :: _ => readUnicodeEscape c.next
  | letter :: _ =>
      match shortEscape? letter with
      | some character => .ok (character, c.next)
      | none => .error (c.faultAhead .invalidEscape)

/-- Reads the characters up to the closing quote.  A round takes at least one character of the
text, so the text itself counts enough rounds. -/
def readCharacters : List Char → Reader (List Char)
  | [], c => .error (c.fault .endOfString)
  | _ :: rounds, c =>
      match c.rest with
      | [] => .error (c.fault .endOfString)
      | '"' :: _ => .ok ([], c.next)
      | '\\' :: _ => do
          let (first, c) ← readEscape c.next
          let (later, c) ← readCharacters rounds c
          return (first :: later, c)
      | first :: _ =>
          if first.toNat < 0x20 then
            .error (c.faultAhead .controlCharacter)
          else do
            let (later, c) ← readCharacters rounds c.next
            return (first :: later, c)

def readQuoted : Reader String := fun c => do
  let (characters, c) ← readCharacters c.rest c
  return (.ofList characters, c)

def skipEscape (c : Cursor) : Except Fault Cursor :=
  match c.rest with
  | [] => .error (c.fault .endOfString)
  | 'u' :: _ => do
      let (_, c) ← readFourHex c.next
      return c
  | letter :: _ =>
      match shortEscape? letter with
      | some _ => .ok c.next
      | none => .error (c.faultAhead .invalidEscape)

/-- Passes the characters up to the closing quote, at least one in each round. -/
def skipCharacters : List Char → Cursor → Except Fault Cursor
  | [], c => .error (c.fault .endOfString)
  | _ :: rounds, c =>
      match c.rest with
      | [] => .error (c.fault .endOfString)
      | '"' :: _ => .ok c.next
      | '\\' :: _ => do
          let c ← skipEscape c.next
          skipCharacters rounds c
      | first :: _ =>
          if first.toNat < 0x20 then .error (c.fault .controlCharacter)
          else skipCharacters rounds c.next

def skipQuoted (c : Cursor) : Except Fault Cursor :=
  skipCharacters c.rest c

end CodeGraph.Json
