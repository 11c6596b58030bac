import CodeGraph.Text.Split

/-!
# Texts cut at marks

What is put together with a mark is taken apart again.  At the first mark, the part before it must
not have the mark itself; at every mark, neither part may.
-/

set_option autoImplicit false

namespace CodeGraph.Text

/-! ## The first mark -/

theorem cutAtFirst_append {mark : Char} {marks before : List Char} (after : List Char)
    (unmarked : mark ∉ before) :
    cutAtFirst (mark :: marks) (before ++ (mark :: marks) ++ after) = some (before, after) := by
  induction before with
  | nil =>
      have isPrefix : (mark :: marks).isPrefixOf (mark :: (marks ++ after)) = true :=
        List.isPrefixOf_iff_prefix.mpr ⟨after, rfl⟩
      change cutAtFirst (mark :: marks) (mark :: (marks ++ after)) = _
      rw [cutAtFirst, if_pos isPrefix]
      simp
  | cons first rest inductionHypothesis =>
      obtain ⟨notFirst, restUnmarked⟩ := not_or.mp (mt List.mem_cons.mpr unmarked)
      have notPrefix :
          ¬ (mark :: marks).isPrefixOf (first :: (rest ++ (mark :: marks) ++ after)) := by
        simp [List.isPrefixOf, notFirst]
      change cutAtFirst (mark :: marks) (first :: (rest ++ (mark :: marks) ++ after)) = _
      rw [cutAtFirst, if_neg notPrefix, inductionHypothesis restUnmarked]
      rfl

section Marks

variable {α : Type} [DecidableEq α] {mark : α}

theorem forall_ne_of_not_mem {text : List α} (unmarked : mark ∉ text) :
    ∀ c ∈ text, decide (c ≠ mark) = true := by
  intro c member
  rw [decide_eq_true_iff]
  rintro rfl
  exact unmarked member

theorem takeWhile_ne_append_cons {before : List α} (unmarked : mark ∉ before) (after : List α) :
    (before ++ mark :: after).takeWhile (fun c => decide (c ≠ mark)) = before := by
  rw [List.takeWhile_append_of_pos (forall_ne_of_not_mem unmarked),
    List.takeWhile_cons_of_neg (by simp), List.append_nil]

theorem dropWhile_ne_append_cons {before : List α} (unmarked : mark ∉ before) (after : List α) :
    (before ++ mark :: after).dropWhile (fun c => decide (c ≠ mark)) = mark :: after := by
  rw [List.dropWhile_append_of_pos (forall_ne_of_not_mem unmarked),
    List.dropWhile_cons_of_neg (by simp)]

/-! ## Every mark -/

theorem pieces_eq_splitOn (mark : α) (text : List α) : pieces mark text = text.splitOn mark := by
  induction text with
  | nil => rw [List.splitOn_nil, pieces]
  | cons first later inductionHypothesis =>
      rw [List.splitOn_cons_eq_if_modifyHead, pieces, inductionHypothesis]
      by_cases isMark : first = mark
      · simp [isMark]
      · obtain ⟨piece, others, parts⟩ :=
          List.exists_cons_of_ne_nil (List.splitOn_ne_nil mark later)
        simp [isMark, parts]

theorem pieces_append_cons {before after : List α} (beforeUnmarked : mark ∉ before)
    (afterUnmarked : mark ∉ after) : pieces mark (before ++ mark :: after) = [before, after] := by
  rw [pieces_eq_splitOn, List.splitOn_append_cons_self_of_not_mem beforeUnmarked,
    List.splitOn_eq_singleton afterUnmarked]

end Marks

end CodeGraph.Text
