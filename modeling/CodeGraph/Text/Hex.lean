/-!
# Hexadecimal digits

Bytes are written as two lower-case digits each; a digit of either case is read.
-/

set_option autoImplicit false

namespace CodeGraph.Text

def hexDigit (value : Nat) : Char :=
  if value < 10 then Char.ofNat (48 + value) else Char.ofNat (87 + value)

def hexValue? (c : Char) : Option Nat :=
  if '0' ≤ c ∧ c ≤ '9' then some (c.toNat - 48)
  else if 'a' ≤ c ∧ c ≤ 'f' then some (c.toNat - 87)
  else if 'A' ≤ c ∧ c ≤ 'F' then some (c.toNat - 55)
  else none

def hexByte (byte : UInt8) : List Char :=
  [hexDigit (byte.toNat / 16), hexDigit (byte.toNat % 16)]

def hexBytes (bytes : List UInt8) : List Char :=
  bytes.flatMap hexByte

theorem hexBytes_length (bytes : List UInt8) : (hexBytes bytes).length = 2 * bytes.length := by
  induction bytes with
  | nil => rfl
  | cons byte rest inductionHypothesis =>
      simp only [hexBytes, List.flatMap_cons, List.length_append, List.length_cons] at *
      rw [inductionHypothesis]
      simp [hexByte]
      omega

end CodeGraph.Text
