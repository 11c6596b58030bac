import CodeGraph.Text.Hex
import CodeGraph.Text.Visible

/-!
# Quoted text in messages

A message shows a text between double quotes, and every character of it that does not show, or
that the quotes would hide, as an escape.
-/

set_option autoImplicit false

namespace CodeGraph.Text

/-- A character inside quotes: itself, a short escape, or its code point in hexadecimal. -/
def quotedChar (c : Char) : List Char :=
  if c = '"' ∨ c = '\\' then ['\\', c]
  else if c = '\n' then ['\\', 'n']
  else if c = '\r' then ['\\', 'r']
  else if c = '\t' then ['\\', 't']
  else if c.toNat = 0 then ['\\', '0']
  else if shows c then [c]
  else ['\\', 'u', '{'] ++ Nat.toDigits 16 c.toNat ++ ['}']

def quoted (text : String) : String :=
  .ofList ('"' :: text.toList.flatMap quotedChar ++ ['"'])

end CodeGraph.Text
