import CodeGraph.Text.Blank
import Mathlib.Data.List.DropRight

/-!
# Trimmed texts

What trimming takes from a text satisfies the test, and what it leaves does not begin or end with
such a character.  So a text is trimmed already just when its ends do not satisfy the test.
-/

set_option autoImplicit false

namespace CodeGraph.Text

/-! ## The end of a text -/

section DropEnd

variable {test : Char → Bool} {text : List Char}

theorem isPrefix_dropEnd (test : Char → Bool) (text : List Char) : dropEnd test text <+: text :=
  List.rdropWhile_prefix test text

theorem exists_dropEnd (test : Char → Bool) (text : List Char) :
    ∃ tail, text = dropEnd test text ++ tail ∧ ∀ c ∈ tail, test c :=
  ⟨text.rtakeWhile test, List.rdropWhile_append_rtakeWhile.symm,
    fun _ => List.mem_rtakeWhile_imp⟩

theorem dropEnd_eq_nil_iff : dropEnd test text = [] ↔ ∀ c ∈ text, test c :=
  List.rdropWhile_eq_nil_iff

theorem head?_dropWhile {c : Char} (first : (text.dropWhile test).head? = some c) :
    test c = false := by
  have stops := List.head?_dropWhile_not test text
  rw [first] at stops
  exact stops

theorem getLast?_dropEnd {c : Char} (last : (dropEnd test text).getLast? = some c) :
    test c = false := by
  rw [dropEnd, List.getLast?_reverse] at last
  exact head?_dropWhile last

theorem dropEnd_append {tail : List Char} (satisfied : ∀ c ∈ tail, test c) :
    dropEnd test (text ++ tail) = dropEnd test text := by
  have dropped : ∀ c ∈ tail.reverse, test c := by simpa using satisfied
  rw [dropEnd, List.reverse_append, List.dropWhile_append_of_pos dropped, dropEnd]

theorem dropEnd_concat {c : Char} (stops : test c = false) :
    dropEnd test (text ++ [c]) = text ++ [c] :=
  List.rdropWhile_concat_neg test text c (by simp [stops])

theorem dropEnd_eq_self (stops : ∀ c ∈ text.getLast?, test c = false) :
    dropEnd test text = text := by
  cases text using List.reverseRecOn with
  | nil => rfl
  | append_singleton init c => exact dropEnd_concat (stops c (by simp))

end DropEnd

/-! ## White space at both ends -/

section TrimBlank

variable {text : List Char}

theorem exists_trimBlank (text : List Char) :
    ∃ before after, text = before ++ trimBlank text ++ after ∧ (∀ c ∈ before, isBlank c) ∧
      ∀ c ∈ after, isBlank c := by
  obtain ⟨after, parts, afterBlank⟩ := exists_dropEnd isBlank (text.dropWhile isBlank)
  refine ⟨text.takeWhile isBlank, after, ?_, fun c => List.mem_takeWhile_imp, afterBlank⟩
  rw [trimBlank, List.append_assoc, ← parts, List.takeWhile_append_dropWhile]

theorem head?_trimBlank {c : Char} (first : (trimBlank text).head? = some c) :
    isBlank c = false := by
  obtain ⟨tail, parts⟩ := isPrefix_dropEnd isBlank (text.dropWhile isBlank)
  have firstLeft : (text.dropWhile isBlank).head? = some c := by
    rw [← parts, List.head?_append]
    exact Option.or_eq_some_iff.mpr (Or.inl first)
  exact head?_dropWhile firstLeft

theorem getLast?_trimBlank {c : Char} (last : (trimBlank text).getLast? = some c) :
    isBlank c = false :=
  getLast?_dropEnd last

theorem trimBlank_append {after : List Char} (blank : ∀ c ∈ after, isBlank c) :
    trimBlank (text ++ after) = trimBlank text := by
  rw [trimBlank, List.dropWhile_append]
  split
  case isTrue nothing =>
    have isNothing : text.dropWhile isBlank = [] := List.isEmpty_iff.mp nothing
    rw [List.dropWhile_eq_nil_iff.mpr blank, trimBlank, isNothing]
  case isFalse => rw [dropEnd_append blank, trimBlank]

theorem trimBlank_framed {before after : List Char} (blankBefore : ∀ c ∈ before, isBlank c)
    (blankAfter : ∀ c ∈ after, isBlank c) :
    trimBlank (before ++ text ++ after) = trimBlank text := by
  rw [trimBlank_append blankAfter, trimBlank, List.dropWhile_append_of_pos blankBefore, trimBlank]

theorem trimBlank_of_front (front : ∀ c ∈ text.head?, isBlank c = false) :
    trimBlank text = dropEnd isBlank text := by
  cases text with
  | nil => rfl
  | cons first rest =>
      rw [trimBlank, List.dropWhile_cons_of_neg (by simp [front first rfl])]

theorem trimBlank_eq_self (front : ∀ c ∈ text.head?, isBlank c = false)
    (back : ∀ c ∈ text.getLast?, isBlank c = false) : trimBlank text = text := by
  rw [trimBlank_of_front front, dropEnd_eq_self back]

end TrimBlank

end CodeGraph.Text
