/-!
# The order of texts

Texts are compared by their characters, one after the other.  That is the order of their bytes in
UTF-8, `lt_iff_bytesOf_lt`: of two characters the greater one has the greater byte where their
bytes first differ.
-/

set_option autoImplicit false

namespace CodeGraph.Text

def bytesOf (text : String) : List UInt8 :=
  text.toUTF8.data.toList

theorem bytesOf_eq (text : String) :
    bytesOf text = text.toList.flatMap String.utf8EncodeChar := by
  have encoded : text.toUTF8 = text.toList.utf8Encode := by
    rw [String.toUTF8_eq_toByteArray, ← String.toByteArray_ofList, String.ofList_toList]
  rw [bytesOf, encoded]
  exact List.toList_data_toByteArray

/-! ## One character -/

theorem cons_lt_cons_iff_toNat {first second : UInt8} {later others : List UInt8} :
    first :: later < second :: others ↔
      first.toNat < second.toNat ∨ first.toNat = second.toNat ∧ later < others := by
  rw [List.cons_lt_cons_iff, UInt8.lt_iff_toNat_lt, UInt8.toNat_inj]

/-- Six bits of a number decide where the bits above them agree. -/
theorem sextet_lt (scale : Nat) {first second : Nat} (less : first / scale < second / scale) :
    first / (scale * 64) < second / (scale * 64) ∨
      first / (scale * 64) = second / (scale * 64) ∧
        first / scale % 64 < second / scale % 64 := by
  rw [← Nat.div_div_eq_div_mul, ← Nat.div_div_eq_div_mul]
  omega

theorem utf8EncodeChar_append_lt {first second : Char} (less : first < second)
    (later others : List UInt8) :
    String.utf8EncodeChar first ++ later < String.utf8EncodeChar second ++ others := by
  have lessCode : first.val.toNat < second.val.toNat := less
  have bound : second.val.toNat < 0x110000 := by
    have valid := second.valid
    simp only [UInt32.isValidChar, Nat.isValidChar] at valid
    omega
  unfold String.utf8EncodeChar
  generalize first.val.toNat = code at *
  generalize second.val.toNat = greater at *
  have low := sextet_lt 1 (by simpa using lessCode)
  have middle := @sextet_lt 64 code greater
  have high := @sextet_lt 4096 code greater
  simp only [Nat.div_one, Nat.reduceMul] at low middle high
  -- one goal for each pair of lengths; the first bytes tell different lengths apart
  dsimp only
  repeat' split
  all_goals
    simp only [List.cons_append, List.nil_append, cons_lt_cons_iff_toNat, UInt8.toNat_ofNat']
    simp (disch := omega) only [Nat.mod_eq_of_lt]
    omega

/-! ## Texts -/

theorem flatMap_utf8EncodeChar_lt {first second : List Char} (less : first < second) :
    first.flatMap String.utf8EncodeChar < second.flatMap String.utf8EncodeChar := by
  induction first generalizing second with
  | nil =>
      cases second with
      | nil => exact absurd less (List.not_lt_nil _)
      | cons head later =>
          obtain ⟨byte, bytes, encoded⟩ :=
            List.exists_cons_of_ne_nil (String.utf8EncodeChar_ne_nil (c := head))
          rw [List.flatMap_nil, List.flatMap_cons, encoded]
          exact List.nil_lt_cons _ _
  | cons head later inductionHypothesis =>
      cases second with
      | nil => exact absurd less (List.not_lt_nil _)
      | cons other others =>
          rw [List.flatMap_cons, List.flatMap_cons]
          rcases List.cons_lt_cons_iff.mp less with headLess | ⟨rfl, laterLess⟩
          · exact utf8EncodeChar_append_lt headLess _ _
          · exact List.append_left_lt (inductionHypothesis laterLess)

/-- A text is less than another one just when its bytes are. -/
theorem lt_iff_bytesOf_lt {first second : String} :
    first < second ↔ bytesOf first < bytesOf second := by
  rw [bytesOf_eq, bytesOf_eq]
  constructor
  · exact fun less => flatMap_utf8EncodeChar_lt less
  · intro bytesLess
    refine Decidable.byContradiction fun notLess => ?_
    by_cases more : second < first
    · exact List.lt_asymm bytesLess (flatMap_utf8EncodeChar_lt more)
    · have same : first = second :=
        String.le_antisymm (String.not_lt.mp more) (String.not_lt.mp notLess)
      rw [same] at bytesLess
      exact List.lt_irrefl _ bytesLess

end CodeGraph.Text
