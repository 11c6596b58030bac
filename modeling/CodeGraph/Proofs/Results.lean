import Mathlib.Data.List.Forall2

/-!
# Results of readers and checks

What a chain of steps that may fail comes to, and a list of them.
-/

set_option autoImplicit false

namespace CodeGraph

variable {α β ε : Type}

theorem bind_eq_ok_iff {first : Except ε α} {next : α → Except ε β} {result : β} :
    first >>= next = .ok result ↔ ∃ value, first = .ok value ∧ next value = .ok result := by
  cases first <;> simp [bind, Except.bind]

theorem bind_eq_error_iff {first : Except ε α} {next : α → Except ε β} {fault : ε} :
    first >>= next = .error fault ↔
      first = .error fault ∨ ∃ value, first = .ok value ∧ next value = .error fault := by
  cases first <;> simp [bind, Except.bind]

theorem eq_ok_of_toOption {result : Except ε α} {value : α}
    (isValue : result.toOption = some value) : result = .ok value := by
  cases result with
  | ok other => exact congrArg Except.ok (Option.some.inj isValue)
  | error => cases isValue

theorem exists_ok_of_isSome {result : Except ε α} (isOk : result.toOption.isSome = true) :
    ∃ value, result = .ok value := by
  cases result with
  | ok value => exact ⟨value, rfl⟩
  | error => cases isOk

section Lists

variable {read : α → Except ε β}

theorem mapM_eq_ok_iff {items : List α} {values : List β} :
    items.mapM read = .ok values ↔
      List.Forall₂ (fun item value => read item = .ok value) items values := by
  induction items generalizing values with
  | nil => simp [pure, Except.pure, eq_comm]
  | cons first later inductionHypothesis =>
      simp only [List.mapM_cons, bind_eq_ok_iff, List.forall₂_cons_left_iff, inductionHypothesis]
      constructor
      · rintro ⟨value, isFirst, others, isLater, isList⟩
        cases isList
        exact ⟨value, others, isFirst, isLater, rfl⟩
      · rintro ⟨value, others, isFirst, isLater, rfl⟩
        exact ⟨value, isFirst, others, isLater, rfl⟩

theorem mapM_of_error {before later : List α} {item : α} {fault : ε}
    (readable : ∀ earlier ∈ before, ∃ value, read earlier = .ok value)
    (failed : read item = .error fault) :
    (before ++ item :: later).mapM read = .error fault := by
  induction before with
  | nil =>
      rw [List.nil_append, List.mapM_cons, failed]
      rfl
  | cons first others inductionHypothesis =>
      obtain ⟨⟨value, isFirst⟩, othersReadable⟩ := List.forall_mem_cons.mp readable
      rw [List.cons_append, List.mapM_cons, isFirst, inductionHypothesis othersReadable]
      rfl

end Lists

end CodeGraph
