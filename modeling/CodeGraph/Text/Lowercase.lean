import CodeGraph.Text.LetterCase

/-!
# Lower case

The full lower-case mapping of Unicode: one character may become two, and a capital sigma
becomes a final sigma at the end of a word.
-/

set_option autoImplicit false

namespace CodeGraph.Text

def lowerChar (c : Char) : List Char :=
  if c.toNat < 0x80 then
    [c.toLower]
  else if c = '\u0130' then
    ['i', '\u0307']
  else
    match caseRuns.findSome? fun run => run.lower? c.toNat with
    | some code => [Char.ofNat code]
    | none => [c]

def meetsCased (text : List Char) : Bool :=
  match text.dropWhile isCaseIgnorable with
  | c :: _ => isCased c
  | [] => false

/-- The lower-case form of a capital sigma between two texts, the one before it reversed: final
where a word ends with it. -/
def lowerSigma (before after : List Char) : Char :=
  if meetsCased before && !meetsCased after then 'ς' else 'σ'

def lowerAfter : List Char → List Char → List Char
  | _, [] => []
  | before, c :: after =>
      (if c = 'Σ' then [lowerSigma before after] else lowerChar c)
        ++ lowerAfter (c :: before) after

def lowercase (text : List Char) : List Char :=
  lowerAfter [] text

end CodeGraph.Text
