/-!
# Counts

Numbers of 64 bits as they are written in text: decimal digits, in front of which a plus may stand.
-/

set_option autoImplicit false

namespace CodeGraph.Text

def digitsValue (digits : List Char) : Nat :=
  digits.foldl (fun value c => 10 * value + (c.toNat - '0'.toNat)) 0

def dropPlus : List Char → List Char
  | '+' :: digits => digits
  | digits => digits

def count? (text : List Char) : Option Nat :=
  let digits := dropPlus text
  if !digits.isEmpty && digits.all Char.isDigit && digitsValue digits < UInt64.size then
    some (digitsValue digits)
  else
    none

end CodeGraph.Text
