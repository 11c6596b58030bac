import CodeGraph.KeyMap

/-!
# Sums and repetitions

A sum over items is one over their groups, `sumOf_groups`.  Of items with a key one comes last, and
a list has as many items as different ones just when none comes again.
-/

set_option autoImplicit false

namespace CodeGraph

/-! ## Sums -/

theorem sumOf_append (first second : List Nat) :
    sumOf (first ++ second) = sumOf first + sumOf second := by
  induction first with
  | nil => simp [sumOf]
  | cons number rest inductionHypothesis =>
      simp only [List.cons_append, sumOf, inductionHypothesis]
      omega

theorem sumOf_perm {first second : List Nat} (perm : first.Perm second) :
    sumOf first = sumOf second := by
  induction perm with
  | nil => rfl
  | cons number _ inductionHypothesis => simp only [sumOf, inductionHypothesis]
  | swap first second rest => simp only [sumOf, Nat.add_left_comm]
  | trans _ _ firstEqual secondEqual => exact firstEqual.trans secondEqual

theorem sumOf_le_sumOf {α : Type} {items : List α} {first second : α → Nat}
    (le : ∀ item ∈ items, first item ≤ second item) :
    sumOf (items.map first) ≤ sumOf (items.map second) := by
  induction items with
  | nil => exact Nat.le_refl 0
  | cons item later inductionHypothesis =>
      have laterBound := inductionHypothesis fun other member =>
        le other (List.mem_cons_of_mem item member)
      have bound := le item List.mem_cons_self
      simp only [List.map_cons, sumOf]
      omega

theorem sumOf_filter_ne_zero {α : Type} (count : α → Nat) (items : List α) :
    sumOf ((items.filter fun item => count item ≠ 0).map count) = sumOf (items.map count) := by
  induction items with
  | nil => rfl
  | cons first later inductionHypothesis =>
      by_cases isZero : count first = 0 <;>
        simp only [List.filter_cons, isZero, List.map_cons, sumOf, ne_eq, not_true_eq_false,
          not_false_eq_true, decide_true, decide_false, if_true, if_false, Bool.false_eq_true,
          inductionHypothesis, Nat.zero_add]

theorem sumOf_ones {α : Type} (items : List α) : sumOf (items.map fun _ => 1) = items.length := by
  induction items with
  | nil => rfl
  | cons first later inductionHypothesis =>
      rw [List.map_cons, sumOf, inductionHypothesis, List.length_cons, Nat.add_comm]

/-- A sum over items is the sum over their groups, if every item is in a group. -/
theorem sumOf_groups {α β : Type} [DecidableEq β] (group : α → β) (weight : α → Nat)
    {groups : List β} (distinct : groups.Nodup) (items : List α)
    (known : ∀ item ∈ items, group item ∈ groups) :
    sumOf (groups.map fun name =>
        sumOf ((items.filter fun item => group item = name).map weight)) =
      sumOf (items.map weight) := by
  -- by the groups: the items of the first one go out with it
  induction groups generalizing items with
  | nil =>
      have none : items = [] :=
        List.eq_nil_iff_forall_not_mem.mpr fun item member => by simpa using known item member
      rw [none]
      rfl
  | cons first later inductionHypothesis =>
      obtain ⟨firstNew, laterDistinct⟩ := List.nodup_cons.mp distinct
      let others := items.filter fun item => !decide (group item = first)
      have othersKnown : ∀ item ∈ others, group item ∈ later := by
        intro item member
        obtain ⟨inItems, notFirst⟩ := List.mem_filter.mp member
        rcases List.mem_cons.mp (known item inItems) with isFirst | inLater
        · simp [isFirst] at notFirst
        · exact inLater
      have sameGroups : ∀ name ∈ later,
          (items.filter fun item => group item = name) =
            others.filter fun item => group item = name := by
        intro name member
        rw [List.filter_filter]
        apply List.filter_congr
        intro item _
        by_cases isName : group item = name
        · have notFirst : name ≠ first := ne_of_mem_of_not_mem member firstNew
          simp [isName, notFirst]
        · simp [isName]
      have split := (List.filter_append_perm (fun item => decide (group item = first)) items).map
        weight
      rw [List.map_cons, sumOf, ← sumOf_perm split, List.map_append, sumOf_append]
      congr 1
      rw [← inductionHypothesis laterDistinct others othersKnown]
      congr 1
      apply List.map_congr_left
      intro name member
      rw [sameGroups name member]

theorem length_groups {α β : Type} [DecidableEq β] (group : α → β) {groups : List β}
    (distinct : groups.Nodup) (items : List α) (known : ∀ item ∈ items, group item ∈ groups) :
    sumOf (groups.map fun name => (items.filter fun item => group item = name).length) =
      items.length := by
  have grouped := sumOf_groups group (fun _ => 1) distinct items known
  simpa only [sumOf_ones] using grouped

theorem sumOf_positiveCounts {α : Type} [DecidableEq α] {groups : List α} (distinct : groups.Nodup)
    (items : List α) (known : ∀ item ∈ items, item ∈ groups) :
    sumOf (((groups.map fun name => (name, items.count name)).filter fun entry =>
      entry.2 ≠ 0).map Prod.snd) = items.length := by
  have counted : ∀ name, items.count name = (items.filter fun item => id item = name).length :=
    fun name => List.count_eq_length_filter
  rw [sumOf_filter_ne_zero, List.map_map, ← length_groups id distinct items known]
  exact congrArg sumOf (List.map_congr_left fun name _ => counted name)

/-! ## Repetitions -/

/-- Of the items with a key one is the last. -/
theorem exists_last {α : Type} (key : α → String) {items : List α} {item : α}
    (member : item ∈ items) :
    ∃ before last after, items = before ++ last :: after ∧ key last = key item ∧
      ∀ other ∈ after, key other ≠ key item := by
  induction items generalizing item with
  | nil => cases member
  | cons first later inductionHypothesis =>
      by_cases again : ∃ other ∈ later, key other = key item
      · obtain ⟨other, inLater, sameKey⟩ := again
        obtain ⟨before, last, after, parts, isLast, noneAfter⟩ := inductionHypothesis inLater
        rw [sameKey] at isLast noneAfter
        exact ⟨first :: before, last, after, by rw [parts]; rfl, isLast, noneAfter⟩
      · have isFirst : item = first := by
          rcases List.mem_cons.mp member with isFirst | inLater
          · exact isFirst
          · exact absurd ⟨item, inLater, rfl⟩ again
        refine ⟨[], first, later, rfl, by rw [isFirst], ?_⟩
        intro other inLater sameKey
        exact again ⟨other, inLater, sameKey⟩

theorem eraseDups_sublist_nodup (texts : List String) :
    texts.eraseDups.Sublist texts ∧ texts.eraseDups.Nodup := by
  induction length : texts.length using Nat.strongRecOn generalizing texts with
  | ind bound inductionHypothesis =>
      cases texts with
      | nil => simp
      | cons first later =>
          rw [List.eraseDups_cons]
          let others := later.filter fun other => !other == first
          have shorter : others.length ≤ later.length := List.length_filter_le _ later
          simp only [List.length_cons] at length
          obtain ⟨sublist, distinct⟩ :=
            inductionHypothesis others.length (by omega) others rfl
          have firstNew : first ∉ others.eraseDups := by simp [others, List.mem_eraseDups]
          exact ⟨(sublist.trans List.filter_sublist).cons_cons first,
            List.nodup_cons.mpr ⟨firstNew, distinct⟩⟩

theorem length_eraseDups_eq_iff {texts : List String} :
    texts.eraseDups.length = texts.length ↔ texts.Nodup := by
  constructor
  · intro same
    rw [← (eraseDups_sublist_nodup texts).1.eq_of_length same]
    exact (eraseDups_sublist_nodup texts).2
  · intro distinct
    apply List.Perm.length_eq
    exact (List.perm_ext_iff_of_nodup (eraseDups_sublist_nodup texts).2 distinct).mpr fun _ =>
      List.mem_eraseDups

end CodeGraph
