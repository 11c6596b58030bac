/-!
# Finding and cutting

Occurrences of one text in another, and the lines of a text, as characters or as bytes.
-/

set_option autoImplicit false

namespace CodeGraph.Text

def occurs (part : List Char) : List Char → Bool
  | [] => part.isEmpty
  | c :: rest => part.isPrefixOf (c :: rest) || occurs part rest

def cutAtFirst (mark : List Char) : List Char → Option (List Char × List Char)
  | [] => if mark.isEmpty then some ([], []) else none
  | c :: rest =>
      if mark.isPrefixOf (c :: rest) then
        some ([], (c :: rest).drop mark.length)
      else
        (cutAtFirst mark rest).map fun parts => (c :: parts.1, parts.2)

def pieces {α : Type} [DecidableEq α] (mark : α) : List α → List (List α)
  | [] => [[]]
  | first :: rest =>
      if first = mark then [] :: pieces mark rest
      else match pieces mark rest with
        | piece :: later => (first :: piece) :: later
        | [] => [[first]]

def dropLastMark {α : Type} [DecidableEq α] (mark : α) (line : List α) : List α :=
  if line.getLast? = some mark then line.dropLast else line

/-- The lines of pieces cut at newlines: every piece that a newline ends loses a carriage return
before it, and the last piece is a line of its own unless it is empty. -/
def linesOfPieces {α : Type} [DecidableEq α] (carriageReturn : α) : List (List α) → List (List α)
  | [] => []
  | [last] => if last.isEmpty then [] else [last]
  | first :: later => dropLastMark carriageReturn first :: linesOfPieces carriageReturn later

def lines (text : List Char) : List (List Char) :=
  linesOfPieces '\r' (pieces '\n' text)

def byteLines (bytes : List UInt8) : List (List UInt8) :=
  linesOfPieces 13 (pieces 10 bytes)

end CodeGraph.Text
