import CodeGraph.Decimal.Shortest
import CodeGraph.Json.Value
import CodeGraph.Text.Hex

/-!
# Writing JSON values

The compact form has no blanks.  The indented form puts every item and member on a line of its
own.  Strings escape quotes, backslashes and the controls below the space, and nothing else.
-/

set_option autoImplicit false

namespace CodeGraph.Json

def escapedChar (c : Char) : List Char :=
  if c = '"' ∨ c = '\\' then ['\\', c]
  else if c = '\x08' then ['\\', 'b']
  else if c = '\x0c' then ['\\', 'f']
  else if c = '\n' then ['\\', 'n']
  else if c = '\r' then ['\\', 'r']
  else if c = '\t' then ['\\', 't']
  else if c.toNat < 0x20 then
    ['\\', 'u', '0', '0', Text.hexDigit (c.toNat / 16), Text.hexDigit (c.toNat % 16)]
  else [c]

def quote (text : String) : List Char :=
  '"' :: text.toList.flatMap escapedChar ++ ['"']

def wholeText (value : Int) : List Char :=
  if value < 0 then '-' :: Nat.toDigits 10 value.natAbs else Nat.toDigits 10 value.natAbs

namespace Value

mutual

def compact : Value → List Char
  | null => ['n', 'u', 'l', 'l']
  | bool true => ['t', 'r', 'u', 'e']
  | bool false => ['f', 'a', 'l', 's', 'e']
  | whole value => wholeText value
  | real value => Decimal.Layout.json.text value
  | text value => quote value
  | array items => '[' :: compactItems items
  | object members => '{' :: compactMembers members

def compactItems : List Value → List Char
  | [] => [']']
  | [last] => compact last ++ [']']
  | first :: later => compact first ++ ',' :: compactItems later

def compactMembers : List (String × Value) → List Char
  | [] => ['}']
  | [(name, last)] => quote name ++ ':' :: compact last ++ ['}']
  | (name, first) :: later => quote name ++ ':' :: compact first ++ ',' :: compactMembers later

end

def newLine (level : Nat) : List Char :=
  '\n' :: List.replicate (2 * level) ' '

mutual

def indented (level : Nat) : Value → List Char
  | array [] => ['[', ']']
  | object [] => ['{', '}']
  | array items => '[' :: indentedItems (level + 1) items ++ newLine level ++ [']']
  | object members => '{' :: indentedMembers (level + 1) members ++ newLine level ++ ['}']
  | null => ['n', 'u', 'l', 'l']
  | bool true => ['t', 'r', 'u', 'e']
  | bool false => ['f', 'a', 'l', 's', 'e']
  | whole value => wholeText value
  | real value => Decimal.Layout.json.text value
  | text value => quote value

def indentedItems (level : Nat) : List Value → List Char
  | [] => []
  | [last] => newLine level ++ indented level last
  | first :: later => newLine level ++ indented level first ++ ',' :: indentedItems level later

def indentedMembers (level : Nat) : List (String × Value) → List Char
  | [] => []
  | [(name, last)] => newLine level ++ quote name ++ ':' :: ' ' :: indented level last
  | (name, first) :: later =>
      newLine level ++ quote name ++ ':' :: ' ' :: indented level first
        ++ ',' :: indentedMembers level later

end

end Value

end CodeGraph.Json
