/-!
# Base64

Three bytes are written as four characters of six bits each.  One or two bytes that are left over
are filled up with equals signs.
-/

set_option autoImplicit false

namespace CodeGraph.Text

def base64Digit (value : Nat) : Char :=
  if value < 26 then Char.ofNat (65 + value)
  else if value < 52 then Char.ofNat (71 + value)
  else if value < 62 then Char.ofNat (value - 4)
  else if value = 62 then '+'
  else '/'

def base64Digits (value : Nat) : List Char :=
  [base64Digit (value / 262144), base64Digit (value / 4096 % 64), base64Digit (value / 64 % 64),
    base64Digit (value % 64)]

def base64 : List UInt8 → List Char
  | [] => []
  | [first] => (base64Digits (first.toNat * 65536)).take 2 ++ ['=', '=']
  | [first, second] => (base64Digits (first.toNat * 65536 + second.toNat * 256)).take 3 ++ ['=']
  | first :: second :: third :: rest =>
      base64Digits (first.toNat * 65536 + second.toNat * 256 + third.toNat) ++ base64 rest

end CodeGraph.Text
