import CodeGraph.Proofs.Text.Cutting

/-!
# The lines of a text

A text is cut at its newlines, with the carriage return that may stand before a newline.  `IsLines`
says which lines a text has, and `isLines_iff` that `lines` finds them: every text has lines, and in
one way only.
-/

set_option autoImplicit false

namespace CodeGraph.Text

/-- A text has certain lines.  A carriage return that no newline follows is part of its line. -/
inductive IsLines : List Char → List (List Char) → Prop where
  | none : IsLines [] []
  /-- What follows the last newline is a line of its own, unless it is empty. -/
  | last {line : List Char} (filled : line ≠ []) (unbroken : '\n' ∉ line) : IsLines line [line]
  | newline {line rest : List Char} {later : List (List Char)} (unbroken : '\n' ∉ line)
      (unreturned : line.getLast? ≠ some '\r') (isLater : IsLines rest later) :
      IsLines (line ++ '\n' :: rest) (line :: later)
  | returned {line rest : List Char} {later : List (List Char)} (unbroken : '\n' ∉ line)
      (isLater : IsLines rest later) : IsLines (line ++ '\r' :: '\n' :: rest) (line :: later)

/-! ## Cutting -/

theorem lines_eq (text : List Char) : lines text = linesOfPieces '\r' (text.splitOn '\n') := by
  rw [lines, pieces_eq_splitOn]

theorem lines_of_unbroken {line : List Char} (filled : line ≠ []) (unbroken : '\n' ∉ line) :
    lines line = [line] := by
  rw [lines_eq, List.splitOn_eq_singleton unbroken, linesOfPieces, if_neg (by simpa using filled)]

theorem lines_append_newline {line : List Char} (unbroken : '\n' ∉ line) (rest : List Char) :
    lines (line ++ '\n' :: rest) = dropLastMark '\r' line :: lines rest := by
  obtain ⟨piece, others, parts⟩ := List.exists_cons_of_ne_nil (List.splitOn_ne_nil '\n' rest)
  rw [lines_eq, lines_eq, List.splitOn_append_cons_self_of_not_mem unbroken, parts]
  rfl

theorem dropLastMark_of_ne {line : List Char} {mark : Char} (unmarked : line.getLast? ≠ some mark) :
    dropLastMark mark line = line :=
  if_neg unmarked

theorem dropLastMark_append_singleton (line : List Char) (mark : Char) :
    dropLastMark mark (line ++ [mark]) = line := by
  rw [dropLastMark, if_pos List.getLast?_concat, List.dropLast_concat]

/-! ## The lines -/

theorem IsLines.eq_lines {text : List Char} {found : List (List Char)}
    (isLines : IsLines text found) : lines text = found := by
  induction isLines with
  | none => rfl
  | last filled unbroken => exact lines_of_unbroken filled unbroken
  | newline unbroken unreturned _ inductionHypothesis =>
      rw [lines_append_newline unbroken, dropLastMark_of_ne unreturned, inductionHypothesis]
  | @returned line rest later unbroken _ inductionHypothesis =>
      have alsoUnbroken : '\n' ∉ line ++ ['\r'] := by simp [unbroken]
      have parts : line ++ '\r' :: '\n' :: rest = (line ++ ['\r']) ++ '\n' :: rest := by simp
      rw [parts, lines_append_newline alsoUnbroken, dropLastMark_append_singleton,
        inductionHypothesis]

theorem exists_isLines (text : List Char) : ∃ found, IsLines text found := by
  -- by the length: what follows the first newline is shorter
  induction length : text.length using Nat.strongRecOn generalizing text with
  | ind bound inductionHypothesis =>
      by_cases broken : '\n' ∈ text
      · obtain ⟨line, rest, rfl, unbroken⟩ := List.eq_append_cons_of_mem broken
        have shorter : rest.length < bound := by
          rw [← length, List.length_append, List.length_cons]
          omega
        obtain ⟨later, isLater⟩ := inductionHypothesis rest.length shorter rest rfl
        by_cases hasReturn : line.getLast? = some '\r'
        · obtain ⟨before, rfl⟩ := List.getLast?_eq_some_iff.mp hasReturn
          have beforeUnbroken : '\n' ∉ before := fun member =>
            unbroken (List.mem_append_left _ member)
          rw [List.append_assoc]
          exact ⟨before :: later, .returned beforeUnbroken isLater⟩
        · exact ⟨line :: later, .newline unbroken hasReturn isLater⟩
      · cases text with
        | nil => exact ⟨[], .none⟩
        | cons first others => exact ⟨[first :: others], .last (List.cons_ne_nil _ _) broken⟩

theorem isLines_iff {text : List Char} {found : List (List Char)} :
    IsLines text found ↔ lines text = found := by
  constructor
  · exact IsLines.eq_lines
  · rintro rfl
    obtain ⟨found, isLines⟩ := exists_isLines text
    rw [isLines.eq_lines]
    exact isLines

/-- Only one of two carriage returns before a newline is dropped, and none at the end. -/
example : lines "a\r\r\n\n\rb\r".toList = ["a\r".toList, [], "\rb\r".toList] := by decide

end CodeGraph.Text
