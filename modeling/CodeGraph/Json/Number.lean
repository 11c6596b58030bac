import CodeGraph.Json.Cursor

/-!
# Numbers of a JSON text

Digits are taken into a significand as long as it fits into 64 bits.  A number without a fraction
and an exponent whose digits all fit is whole; every other number is the significand times or over
a power of ten, in double arithmetic.
-/

set_option autoImplicit false

namespace CodeGraph.Json

inductive Number where
  | whole (value : Int)
  | real (value : Float)

def Number.found : Number → Found
  | whole value => .whole value
  | real value => .real value

def digitValue (c : Char) : Nat := c.toNat - 48

def takeDigits (c : Cursor) : List Nat × Cursor :=
  ((c.rest.takeWhile Char.isDigit).map digitValue, c.skipWhile Char.isDigit)

/-- Appends digits to a significand as long as it stays below `2^64`, and counts them. -/
def gather (significand : Nat) : List Nat → Nat × Nat
  | [] => (significand, 0)
  | digit :: later =>
      if significand * 10 + digit < UInt64.size then
        let (gathered, count) := gather (significand * 10 + digit) later
        (gathered, count + 1)
      else
        (significand, 0)

def powerOfTen (exponent : Nat) : Float := Float.ofScientific 1 false exponent

/-- Divides by a power of ten, by `10^308` at a time. -/
def scaleDown (value : Float) (places : Nat) : Float :=
  if places ≤ 308 then value / powerOfTen places
  else if value == 0.0 then value
  else scaleDown (value / powerOfTen 308) (places - 308)
termination_by places

def scaled? (significand : Nat) (exponent : Int) : Option Float :=
  let value := (UInt64.ofNat significand).toFloat
  if exponent < 0 then
    some (scaleDown value exponent.natAbs)
  else if exponent ≤ 308 then
    let product := value * powerOfTen exponent.natAbs
    if product.isInf then none else some product
  else if significand = 0 then
    some value
  else
    none

def signed (negative : Bool) (value : Float) : Float :=
  if negative then -value else value

def realNumber (negative : Bool) (significand : Nat) (exponent : Int) : Reader Number := fun c =>
  match scaled? significand exponent with
  | some value => .ok (.real (signed negative value), c)
  | none => .error (c.fault .numberOutOfRange)

/-- The number of exponent digits, or how many digits it takes to exceed 31 bits. -/
def exponentOf (exponent passed : Nat) : List Nat → Except Nat Nat
  | [] => .ok exponent
  | digit :: later =>
      if exponent * 10 + digit < UInt32.size / 2 then
        exponentOf (exponent * 10 + digit) (passed + 1) later
      else .error (passed + 1)

/-- Reads an exponent, from behind its letter, for a significand that is to be scaled by
`10^shift` as well. -/
def readExponent (negative : Bool) (significand : Nat) (shift : Int) : Reader Number := fun c =>
  let shrinks := c.rest.head? = some '-'
  let c := if shrinks ∨ c.rest.head? = some '+' then c.next else c
  match c.rest with
  | [] => .error (c.fault .endOfValue)
  | first :: _ =>
      if !first.isDigit then
        .error (c.faultAhead .invalidNumber)
      else
        let (digits, behind) := takeDigits c
        match exponentOf 0 0 digits with
        | .ok exponent =>
            realNumber negative significand (if shrinks then shift - exponent else shift + exponent)
              behind
        | .error passed =>
            if significand ≠ 0 ∧ ¬shrinks then
              .error ⟨.numberOutOfRange, c.position.afterAll (c.rest.take passed)⟩
            else
              .ok (.real (signed negative 0.0), behind)

/-- Reads a fraction, from behind the point, for a significand that already misses so many
digits before the point. -/
def readFraction (negative : Bool) (significand missing : Nat) : Reader Number := fun c =>
  let (digits, behind) := takeDigits c
  if digits.isEmpty then
    match c.rest with
    | [] => .error (c.fault .endOfValue)
    | _ => .error (c.faultAhead .invalidNumber)
  else
    let (gathered, count) := gather significand digits
    let shift : Int := missing - count
    match behind.rest with
    | 'e' :: _ | 'E' :: _ => readExponent negative gathered shift behind.next
    | _ => realNumber negative gathered shift behind

/-- The whole number of a sign and a significand.  Zero with a sign and what 64 bits do not hold
are real. -/
def wholeNumber (negative : Bool) (significand : Nat) : Number :=
  if negative then
    if significand = 0 ∨ UInt64.size / 2 < significand then
      .real (-(UInt64.ofNat significand).toFloat)
    else
      .whole (-significand)
  else
    .whole significand

def readNumber (negative : Bool) : Reader Number := fun c =>
  match c.rest with
  | [] => .error (c.fault .endOfValue)
  | first :: later =>
      if !first.isDigit then
        .error (c.faultAhead .invalidNumber)
      else if first = '0' ∧ later.head?.any Char.isDigit then
        .error (c.next.faultAhead .invalidNumber)
      else
        let (digits, behind) := takeDigits c
        let (significand, count) := gather 0 digits
        let missing := digits.length - count
        match behind.rest with
        | '.' :: _ => readFraction negative significand missing behind.next
        | 'e' :: _ | 'E' :: _ => readExponent negative significand missing behind.next
        | _ =>
            if missing = 0 then .ok (wholeNumber negative significand, behind)
            else realNumber negative significand missing behind

def skipDigits (c : Cursor) : Except Fault Cursor :=
  match c.rest with
  | first :: _ =>
      if first.isDigit then .ok (c.skipWhile Char.isDigit) else .error (c.faultAhead .invalidNumber)
  | [] => .error (c.faultAhead .invalidNumber)

def skipExponent (c : Cursor) : Except Fault Cursor :=
  match c.rest with
  | 'e' :: later | 'E' :: later =>
      skipDigits (if later.head? = some '+' ∨ later.head? = some '-' then c.next.next else c.next)
  | _ => .ok c

def skipNumber (c : Cursor) : Except Fault Cursor := do
  let behind ← match c.rest with
    | '0' :: later =>
        if later.head?.any Char.isDigit then throw (c.next.faultAhead .invalidNumber)
        else pure c.next
    | _ => skipDigits c
  match behind.rest with
  | '.' :: _ => do
      let behind ← skipDigits behind.next
      skipExponent behind
  | _ => skipExponent behind

end CodeGraph.Json
