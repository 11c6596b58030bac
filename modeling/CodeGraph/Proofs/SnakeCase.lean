import CodeGraph.NameVariants
import Mathlib.Data.List.Basic

/-!
# The snake case of a name

Lower case and snake case keep the letters of an ASCII name.  What snake case adds is one underscore
directly before each capital but a first one: the snake cases of two parts of a name stand side by
side in that of the whole, with an underscore between them where the second part begins with a
capital.
-/

set_option autoImplicit false

namespace CodeGraph

/-! ## ASCII in lower case -/

theorem isUpper_iff_val {c : Char} : c.isUpper ↔ c.val ≥ 'A'.val ∧ c.val ≤ 'Z'.val :=
  decide_eq_true_iff

theorem isUpper_iff_toNat {c : Char} : c.isUpper ↔ 65 ≤ c.toNat ∧ c.toNat ≤ 90 := by
  rw [isUpper_iff_val, ge_iff_le, UInt32.le_iff_toNat_le, UInt32.le_iff_toNat_le]
  rfl

theorem toLower_of_not_isUpper {c : Char} (small : c.isUpper = false) : c.toLower = c :=
  dif_neg (mt isUpper_iff_val.mpr (Bool.eq_false_iff.mp small))

theorem toNat_toLower_of_isUpper {c : Char} (capital : c.isUpper) :
    c.toLower.toNat = c.toNat + 32 := by
  have bounds := isUpper_iff_toNat.mp capital
  have moved : c.toLower.val = c.val + 32 :=
    congrArg Char.val (dif_pos (isUpper_iff_val.mp capital))
  rw [← Char.toNat_val, moved, UInt32.toNat_add, Char.toNat_val]
  change (c.toNat + 32) % 2 ^ 32 = c.toNat + 32
  omega

theorem toLower_cases (c : Char) :
    c.isUpper = false ∧ c.toLower = c ∨
      65 ≤ c.toNat ∧ c.toNat ≤ 90 ∧ c.toLower.toNat = c.toNat + 32 := by
  cases capital : c.isUpper with
  | false => exact Or.inl ⟨rfl, toLower_of_not_isUpper capital⟩
  | true =>
      obtain ⟨atLeast, atMost⟩ := isUpper_iff_toNat.mp capital
      exact Or.inr ⟨atLeast, atMost, toNat_toLower_of_isUpper capital⟩

theorem isUpper_toLower (c : Char) : c.toLower.isUpper = false := by
  rcases toLower_cases c with ⟨small, same⟩ | ⟨atLeast, atMost, moved⟩
  · rw [same, small]
  · rw [Bool.eq_false_iff, Ne, isUpper_iff_toNat]
    omega

theorem toLower_eq_underscore_iff {c : Char} : c.toLower = '_' ↔ c = '_' := by
  rcases toLower_cases c with ⟨_, same⟩ | ⟨atLeast, atMost, moved⟩
  · rw [same]
  · have underscore : '_'.toNat = 95 := rfl
    rw [← Char.toNat_inj, ← Char.toNat_inj]
    omega

namespace Text

def IsAscii (text : List Char) : Prop :=
  ∀ c ∈ text, c.toNat < 0x80

instance (text : List Char) : Decidable (IsAscii text) :=
  decidable_of_iff (text.all fun c => decide (c.toNat < 0x80)) (by simp [IsAscii])

theorem isAscii_cons {c : Char} {text : List Char} :
    IsAscii (c :: text) ↔ c.toNat < 0x80 ∧ IsAscii text := by
  simp [IsAscii]

theorem isAscii_append {first second : List Char} :
    IsAscii (first ++ second) ↔ IsAscii first ∧ IsAscii second := by
  simp [IsAscii, or_imp, forall_and]

theorem toNat_toLower_lt {c : Char} (ascii : c.toNat < 0x80) : c.toLower.toNat < 0x80 := by
  rcases toLower_cases c with ⟨_, same⟩ | ⟨atLeast, atMost, moved⟩
  · rwa [same]
  · omega

theorem lowerAfter_of_ascii {text : List Char} (ascii : IsAscii text) (before : List Char) :
    lowerAfter before text = text.map Char.toLower := by
  induction text generalizing before with
  | nil => rfl
  | cons c after inductionHypothesis =>
      obtain ⟨isAscii, laterAscii⟩ := isAscii_cons.mp ascii
      have notSigma : c ≠ 'Σ' := by
        rintro rfl
        exact absurd isAscii (by decide)
      rw [lowerAfter, if_neg notSigma, lowerChar, if_pos isAscii, inductionHypothesis laterAscii]
      rfl

theorem lowercase_of_ascii {text : List Char} (ascii : IsAscii text) :
    lowercase text = text.map Char.toLower :=
  lowerAfter_of_ascii ascii []

end Text

/-! ## What stands for a character -/

/-- The underscore that separates a character from what stands before it, if it is a capital. -/
def separator (c : Char) : List Char :=
  if c.isUpper then ['_'] else []

/-- What stands in the snake case of a name for a character behind the first one. -/
def separated (c : Char) : List Char :=
  separator c ++ [c.toLower]

theorem separateCapitals_cons (c : Char) (later : List Char) :
    separateCapitals (c :: later) = separator c ++ c :: separateCapitals later := by
  cases capital : c.isUpper <;> simp [separateCapitals, separator, capital]

theorem ascii_separator (c : Char) : Text.IsAscii (separator c) := by
  unfold separator
  split <;> simp [Text.IsAscii]

theorem ascii_separateCapitals {name : List Char} (ascii : Text.IsAscii name) :
    Text.IsAscii (separateCapitals name) := by
  induction name with
  | nil => exact ascii
  | cons c later inductionHypothesis =>
      obtain ⟨isAscii, laterAscii⟩ := Text.isAscii_cons.mp ascii
      rw [separateCapitals_cons, Text.isAscii_append, Text.isAscii_cons]
      exact ⟨ascii_separator c, isAscii, inductionHypothesis laterAscii⟩

theorem map_toLower_separateCapitals (name : List Char) :
    (separateCapitals name).map Char.toLower = name.flatMap separated := by
  induction name with
  | nil => rfl
  | cons c later inductionHypothesis =>
      have stays : (separator c).map Char.toLower = separator c := by
        unfold separator
        split <;> rfl
      rw [separateCapitals_cons, List.map_append, stays, List.map_cons, inductionHypothesis,
        List.flatMap_cons, separated, List.append_assoc, List.singleton_append]

theorem snakeCase_cons {first : Char} {rest : List Char} (ascii : Text.IsAscii (first :: rest)) :
    snakeCase (first :: rest) = first.toLower :: rest.flatMap separated := by
  obtain ⟨isAscii, restAscii⟩ := Text.isAscii_cons.mp ascii
  have wholeAscii := Text.isAscii_cons.mpr ⟨isAscii, ascii_separateCapitals restAscii⟩
  rw [snakeCase, Text.lowercase_of_ascii wholeAscii, List.map_cons, map_toLower_separateCapitals]

/-- The snake cases of two parts of a name stand side by side in that of the whole. -/
theorem snakeCase_append {before after : List Char} {c : Char}
    (ascii : Text.IsAscii (before ++ c :: after)) (inside : before ≠ []) :
    snakeCase (before ++ c :: after) =
      snakeCase before ++ separator c ++ snakeCase (c :: after) := by
  obtain ⟨beforeAscii, afterAscii⟩ := Text.isAscii_append.mp ascii
  cases before with
  | nil => exact absurd rfl inside
  | cons first rest =>
      have wholeCons : first :: rest ++ c :: after = first :: (rest ++ c :: after) := rfl
      rw [wholeCons] at ascii ⊢
      rw [snakeCase_cons ascii, snakeCase_cons beforeAscii, snakeCase_cons afterAscii,
        List.flatMap_append, List.flatMap_cons, separated]
      simp

/-! ## Letters and underscores -/

theorem joined_separated (name : List Char) :
    joined (name.flatMap separated) = joined (name.map Char.toLower) := by
  induction name with
  | nil => rfl
  | cons c later inductionHypothesis =>
      have gone : joined (separator c) = [] := by
        unfold separator
        split <;> rfl
      simp only [joined, separated, List.flatMap_cons, List.filter_append, List.map_cons] at *
      rw [gone, inductionHypothesis, List.nil_append, ← List.filter_append, List.singleton_append]

theorem toLower_beq_underscore (c : Char) : (c.toLower == '_') = (c == '_') := by
  rw [Bool.eq_iff_iff, beq_iff_eq, beq_iff_eq, toLower_eq_underscore_iff]

theorem count_separator (c : Char) :
    (separator c).count '_' = if c.isUpper then 1 else 0 := by
  unfold separator
  split <;> rfl

theorem count_separated (name : List Char) :
    (name.flatMap separated).count '_' = name.count '_' + name.countP Char.isUpper := by
  induction name with
  | nil => rfl
  | cons c later inductionHypothesis =>
      rw [List.flatMap_cons, separated, List.count_append, List.count_append, count_separator,
        List.count_singleton, toLower_beq_underscore, inductionHypothesis, List.count_cons,
        List.countP_cons]
      omega

def IsSmall (name : List Char) : Prop :=
  Text.IsAscii name ∧ ∀ c ∈ name, c.isUpper = false

theorem isSmall_cons {c : Char} {name : List Char} :
    IsSmall (c :: name) ↔ (c.toNat < 0x80 ∧ c.isUpper = false) ∧ IsSmall name := by
  simp only [IsSmall, Text.isAscii_cons, List.forall_mem_cons]
  tauto

theorem isSmall_separated {name : List Char} (ascii : Text.IsAscii name) :
    IsSmall (name.flatMap separated) := by
  induction name with
  | nil => simp [IsSmall, Text.IsAscii]
  | cons c later inductionHypothesis =>
      obtain ⟨isAscii, laterAscii⟩ := Text.isAscii_cons.mp ascii
      have behind : IsSmall (c.toLower :: later.flatMap separated) :=
        isSmall_cons.mpr ⟨⟨Text.toNat_toLower_lt isAscii, isUpper_toLower c⟩,
          inductionHypothesis laterAscii⟩
      rw [List.flatMap_cons, separated, List.append_assoc, List.singleton_append, separator]
      split
      case isTrue => exact isSmall_cons.mpr ⟨by decide, behind⟩
      case isFalse => exact behind

theorem isSmall_snakeCase {name : List Char} (ascii : Text.IsAscii name) :
    IsSmall (snakeCase name) := by
  cases name with
  | nil => simp [snakeCase, IsSmall, Text.IsAscii]
  | cons first rest =>
      obtain ⟨isAscii, restAscii⟩ := Text.isAscii_cons.mp ascii
      rw [snakeCase_cons ascii]
      exact isSmall_cons.mpr ⟨⟨Text.toNat_toLower_lt isAscii, isUpper_toLower first⟩,
        isSmall_separated restAscii⟩

theorem separated_of_small {name : List Char} (small : ∀ c ∈ name, c.isUpper = false) :
    name.flatMap separated = name := by
  have alone : ∀ c ∈ name, separated c = [c] := by
    intro c member
    simp [separated, separator, small c member, toLower_of_not_isUpper (small c member)]
  rw [List.flatMap_congr alone, List.flatMap_singleton']

theorem snakeCase_of_isSmall {name : List Char} (isSmall : IsSmall name) :
    snakeCase name = name := by
  obtain ⟨ascii, small⟩ := isSmall
  cases name with
  | nil => rfl
  | cons first rest =>
      obtain ⟨firstSmall, restSmall⟩ := List.forall_mem_cons.mp small
      rw [snakeCase_cons ascii, toLower_of_not_isUpper firstSmall, separated_of_small restSmall]

/-- Without underscores the snake case of an ASCII name is its lower case.  It has the underscores
of the name and one for each capital behind the first character, directly before that letter.  It
has no capitals, and it is its own snake case. -/
theorem snake_case_respells_letters {name : List Char} (ascii : Text.IsAscii name) :
    (snakeCase name).filter (· ≠ '_') = (Text.lowercase name).filter (· ≠ '_') ∧
    (snakeCase name).count '_' = name.count '_' + name.tail.countP Char.isUpper ∧
    (∀ before c after, name = before ++ c :: after →
      (snakeCase (c :: after)).head? = some c.toLower ∧
      (before ≠ [] → snakeCase name =
        snakeCase before ++ (if c.isUpper then ['_'] else []) ++ snakeCase (c :: after))) ∧
    (∀ c ∈ snakeCase name, c.isUpper = false) ∧
    snakeCase (snakeCase name) = snakeCase name := by
  refine ⟨?_, ?_, fun before c after parts => ?_, (isSmall_snakeCase ascii).2,
    snakeCase_of_isSmall (isSmall_snakeCase ascii)⟩
  · cases name with
    | nil => rfl
    | cons first rest =>
        have restLetters := joined_separated rest
        rw [snakeCase_cons ascii, Text.lowercase_of_ascii ascii, List.map_cons]
        simp only [joined] at restLetters
        rw [List.filter_cons, List.filter_cons, restLetters]
  · cases name with
    | nil => rfl
    | cons first rest =>
        rw [snakeCase_cons ascii, List.count_cons, toLower_beq_underscore, count_separated,
          List.count_cons, List.tail_cons]
        omega
  · subst parts
    refine ⟨?_, snakeCase_append ascii⟩
    rw [snakeCase_cons (Text.isAscii_append.mp ascii).2]
    rfl

/-- In an acronym every capital is a letter of its own, and a capital after an underscore gets a
second one. -/
theorem snake_case_respells_letters_of_acronym :
    let name := "HTTPClient_V2".toList
    Text.IsAscii name ∧ String.ofList (snakeCase name) = "h_t_t_p_client__v2" ∧
      (snakeCase name).count '_' = 1 + 5 ∧
      snakeCase name = "h_t_t".toList ++ ['_'] ++ "p_client__v2".toList ∧
      snakeCase (snakeCase name) = snakeCase name := by
  intro name
  have ascii : Text.IsAscii name := by decide
  obtain ⟨_, underscores, places, _, again⟩ := snake_case_respells_letters ascii
  obtain ⟨_, apart⟩ := places "HTT".toList 'P' "Client_V2".toList rfl
  exact ⟨ascii, by decide +kernel, underscores, apart (by decide), again⟩

end CodeGraph
