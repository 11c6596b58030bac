import CodeGraph.Proofs.Representable
import CodeGraph.Proofs.Text.Cutting
import CodeGraph.SearchDocument
import Mathlib.Data.List.Basic
import Mathlib.Data.List.TakeWhile

/-!
# The spellings of a name

A name is indexed under its different spellings, each where it first occurs among the four.  A
search record is indexed under those of its own name, which is the last part of the qualified name
where the entity has none.
-/

set_option autoImplicit false

namespace CodeGraph

/-! ## First occurrences -/

section Distinct

variable {α : Type} [DecidableEq α]

theorem mem_distinct {values : List α} {value : α} : value ∈ distinct values ↔ value ∈ values := by
  induction values with
  | nil => rfl
  | cons first rest inductionHypothesis =>
      rw [distinct, List.mem_cons, List.mem_filter, inductionHypothesis, List.mem_cons]
      by_cases isFirst : value = first <;> simp [isFirst]

theorem distinct_sublist (values : List α) : (distinct values).Sublist values := by
  induction values with
  | nil => exact .slnil
  | cons first rest inductionHypothesis =>
      exact (List.filter_sublist.trans inductionHypothesis).cons_cons first

theorem idxOf_cons_of_mem_filter {first value : α} {values rest : List α}
    (member : value ∈ values.filter (· ≠ first)) :
    (first :: rest).idxOf value = rest.idxOf value + 1 := by
  have other : value ≠ first := by simpa using (List.mem_filter.mp member).2
  exact List.idxOf_cons_ne rest (Ne.symm other)

theorem distinct_ordered (values : List α) :
    (distinct values).Pairwise fun earlier later => values.idxOf earlier < values.idxOf later := by
  induction values with
  | nil => exact .nil
  | cons first rest inductionHypothesis =>
      apply List.pairwise_cons.mpr
      constructor
      · intro later member
        rw [List.idxOf_cons_self, idxOf_cons_of_mem_filter member]
        omega
      · apply (inductionHypothesis.sublist List.filter_sublist).imp_of_mem
        intro earlier later inFront behind less
        rw [idxOf_cons_of_mem_filter inFront, idxOf_cons_of_mem_filter behind]
        omega

theorem nodup_distinct (values : List α) : (distinct values).Nodup := by
  apply (distinct_ordered values).imp
  rintro value _ less rfl
  exact Nat.lt_irrefl _ less

theorem length_distinct_cons_eq_one {first : α} {rest : List α} :
    (distinct (first :: rest)).length = 1 ↔ ∀ value ∈ rest, value = first := by
  rw [distinct, List.length_cons, Nat.add_eq_right, List.length_eq_zero_iff, List.filter_eq_nil_iff]
  simp [mem_distinct]

end Distinct

/-! ## The name of a search record -/

theorem takeWhile_append_of_stop {α : Type} {test : α → Bool} {stop : α} (stops : test stop = false)
    (first later : List α) : (first ++ stop :: later).takeWhile test = first.takeWhile test := by
  rw [List.takeWhile_append, List.takeWhile_cons_of_neg (by simp [stops]), List.append_nil]
  split
  case isTrue whole => exact ((List.takeWhile_prefix test).eq_of_length whole).symm
  case isFalse => rfl

/-- What stands behind the last mark is the last of the pieces between the marks. -/
theorem getLast?_splitOn {α : Type} [DecidableEq α] (mark : α) (text : List α) :
    (text.splitOn mark).getLast? = some (text.reverse.takeWhile (· ≠ mark)).reverse := by
  -- by the length: what follows the first mark is shorter
  induction length : text.length using Nat.strongRecOn generalizing text with
  | ind bound inductionHypothesis =>
      by_cases marked : mark ∈ text
      · obtain ⟨piece, rest, rfl, unmarked⟩ := List.eq_append_cons_of_mem marked
        have shorter : rest.length < bound := by
          rw [← length, List.length_append, List.length_cons]
          omega
        have ofRest := inductionHypothesis rest.length shorter rest rfl
        obtain ⟨second, others, parts⟩ := List.exists_cons_of_ne_nil (List.splitOn_ne_nil mark rest)
        rw [List.splitOn_append_cons_self_of_not_mem unmarked, parts, List.getLast?_cons_cons,
          ← parts, ofRest, List.reverse_append, List.reverse_cons, List.append_assoc,
          List.singleton_append, takeWhile_append_of_stop (by simp)]
      · have allKept : ∀ value ∈ text.reverse, decide (value ≠ mark) = true :=
          Text.forall_ne_of_not_mem (by simpa using marked)
        rw [List.splitOn_eq_singleton marked, List.getLast?_singleton,
          List.takeWhile_eq_self_iff.mpr allKept, List.reverse_reverse]

theorem nameVariants_eq_nil_iff {name : String} : nameVariants name = [] ↔ name = "" := by
  rw [nameVariants]
  by_cases isEmpty : name = ""
  · simp [isEmpty]
  · simp [isEmpty, spellings, distinct]

theorem nameVariants_of_ne {name : String} (filled : name ≠ "") :
    nameVariants name = distinct (spellings name) := by
  simp [nameVariants, filled]

theorem Entity.nameVariants_searchDocument? {entity : Entity} {qname : String}
    {document : SearchDocument} (indexed : entity.searchDocument? qname = some document) :
    document.nameVariants = nameVariants document.name ∧
      document.name = (nonEmpty? entity.name).getD (lastSegment qname) := by
  unfold searchDocument? at indexed
  split at indexed
  case isTrue =>
    rw [← Option.some.inj indexed]
    exact ⟨rfl, rfl⟩
  case isFalse => cases indexed

theorem Entity.name_searchDocument?_eq_empty_iff {entity : Entity} {qname : String}
    {document : SearchDocument} (indexed : entity.searchDocument? qname = some document) :
    document.name = "" ↔
      (entity.name = none ∨ entity.name = some "") ∧
        (qname.toList.splitOn '.').getLast? = some [] := by
  have lastPart : (qname.toList.splitOn '.').getLast? = some (lastSegment qname).toList := by
    rw [getLast?_splitOn, lastSegment, String.toList_ofList]
  rw [(nameVariants_searchDocument? indexed).2, lastPart, ← nonEmpty?_eq_none_iff]
  cases named : nonEmpty? entity.name with
  | none => simp
  | some name => simp [(nonEmpty?_eq_some_iff.mp named).2]

/-! ## The spellings -/

/-- The spellings of a name that is not empty are the name, its lower case, its snake case and the
name without underscores, each once and in the order in which they first occur among these four.
Only the empty name has none.  A search record has the spellings of its own name, which is empty
only if the entity has no name and the last part of the qualified name is empty. -/
theorem name_variants_are_distinct_spellings :
    (∀ name, name ≠ "" →
      let lowered := String.ofList (Text.lowercase name.toList)
      let snake := String.ofList (snakeCase name.toList)
      let bare := String.ofList (name.toList.filter (· ≠ '_'))
      let variants := nameVariants name
      variants.Nodup ∧ variants.head? = some name ∧
      (∀ spelling, spelling ∈ variants ↔
        spelling = name ∨ spelling = lowered ∨ spelling = snake ∨ spelling = bare) ∧
      (variants.Pairwise fun earlier later =>
        [name, lowered, snake, bare].idxOf earlier < [name, lowered, snake, bare].idxOf later) ∧
      1 ≤ variants.length ∧ variants.length ≤ 4 ∧
      (variants.length = 1 ↔ lowered = name ∧ snake = name ∧ bare = name)) ∧
    (∀ name, nameVariants name = [] ↔ name = "") ∧
    ∀ (entity : Entity) (qname : String) (document : SearchDocument),
      entity.searchDocument? qname = some document →
        document.nameVariants = nameVariants document.name ∧
        (document.nameVariants = [] ↔
          (entity.name = none ∨ entity.name = some "") ∧
            (qname.toList.splitOn '.').getLast? = some []) := by
  refine ⟨fun name filled => ?_, fun name => nameVariants_eq_nil_iff,
    fun entity qname document indexed => ?_⟩
  · intro lowered snake bare variants
    have isDistinct : variants = distinct [name, lowered, snake, bare] := nameVariants_of_ne filled
    rw [isDistinct]
    refine ⟨nodup_distinct _, rfl, fun spelling => ?_, distinct_ordered _, ?_,
      (distinct_sublist _).length_le, ?_⟩
    · simp [mem_distinct]
    · exact Nat.succ_pos _
    · rw [length_distinct_cons_eq_one]
      simp
  · obtain ⟨ofName, _⟩ := Entity.nameVariants_searchDocument? indexed
    rw [ofName, nameVariants_eq_nil_iff]
    exact ⟨rfl, Entity.name_searchDocument?_eq_empty_iff indexed⟩

/-- Of the four spellings of a name without underscores the last is the first again, and an entity
without a name is found under the last part of its qualified name. -/
theorem name_variants_are_distinct_spellings_of_camel_case :
    let entity : Entity := { kind := some .function }
    let document : SearchDocument :=
      { id := "pkg_getUser", qname := "pkg.getUser", name := "getUser"
        nameVariants := ["getUser", "getuser", "get_user"], kind := "function", language }
    "getUser" ≠ "" ∧ (nameVariants "getUser").head? = some "getUser" ∧
      (nameVariants "getUser").length ≤ 4 ∧
      entity.searchDocument? "pkg.getUser" = some document ∧
      document.nameVariants = nameVariants document.name := by
  intro entity document
  have indexed : entity.searchDocument? "pkg.getUser" = some document := by decide +kernel
  obtain ⟨ofName, _, ofEntity⟩ := name_variants_are_distinct_spellings
  obtain ⟨_, isFirst, _, _, _, atMost, _⟩ := ofName "getUser" (by decide)
  exact ⟨by decide, isFirst, atMost, indexed, (ofEntity entity "pkg.getUser" document indexed).1⟩

end CodeGraph
