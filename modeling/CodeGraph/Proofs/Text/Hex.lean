import CodeGraph.Text.Hex

/-!
# Hexadecimal texts

Bytes are written with digits from 0 to 9 and from a to f, two for each, and no other bytes are
written the same way: `hexBytes_inj`.  So twice as many digits as a number are those of as many
bytes.
-/

set_option autoImplicit false

namespace CodeGraph.Text

/-! ## Digits -/

def IsHexDigit (c : Char) : Prop :=
  '0' ≤ c ∧ c ≤ '9' ∨ 'a' ≤ c ∧ c ≤ 'f'

instance (c : Char) : Decidable (IsHexDigit c) :=
  inferInstanceAs (Decidable (_ ∨ _))

theorem isHexDigit_hexDigit : ∀ value < 16, IsHexDigit (hexDigit value) := by
  decide

theorem hexValue?_hexDigit : ∀ value < 16, hexValue? (hexDigit value) = some value := by
  decide

theorem hexDigit_inj {first second : Nat} (firstSmall : first < 16) (secondSmall : second < 16) :
    hexDigit first = hexDigit second ↔ first = second := by
  constructor
  · intro same
    have value := hexValue?_hexDigit first firstSmall
    rw [same, hexValue?_hexDigit second secondSmall] at value
    exact (Option.some.inj value).symm
  · exact congrArg hexDigit

/-! ## Bytes -/

theorem hexBytes_cons (byte : UInt8) (rest : List UInt8) :
    hexBytes (byte :: rest) =
      hexDigit (byte.toNat / 16) :: hexDigit (byte.toNat % 16) :: hexBytes rest := rfl

theorem halves_lt (byte : UInt8) : byte.toNat / 16 < 16 ∧ byte.toNat % 16 < 16 := by
  have bound := byte.toNat_lt
  omega

theorem isHexDigit_of_mem_hexBytes {bytes : List UInt8} {c : Char} (member : c ∈ hexBytes bytes) :
    IsHexDigit c := by
  obtain ⟨byte, _, inByte⟩ := List.mem_flatMap.mp member
  obtain ⟨high, low⟩ := halves_lt byte
  simp only [hexByte, List.mem_cons, List.not_mem_nil, or_false] at inByte
  rcases inByte with rfl | rfl
  · exact isHexDigit_hexDigit _ high
  · exact isHexDigit_hexDigit _ low

theorem hexBytes_inj {first second : List UInt8} :
    hexBytes first = hexBytes second ↔ first = second := by
  constructor
  · intro same
    induction first generalizing second with
    | nil =>
        cases second with
        | nil => rfl
        | cons other others => cases same
    | cons byte rest inductionHypothesis =>
        cases second with
        | nil => cases same
        | cons other others =>
            rw [hexBytes_cons, hexBytes_cons, List.cons.injEq, List.cons.injEq,
              hexDigit_inj (halves_lt byte).1 (halves_lt other).1,
              hexDigit_inj (halves_lt byte).2 (halves_lt other).2] at same
            obtain ⟨sameHigh, sameLow, sameRest⟩ := same
            have sameByte : byte = other := UInt8.toNat_inj.mp (by omega)
            rw [sameByte, inductionHypothesis sameRest]
  · exact congrArg hexBytes

theorem take_hexBytes (count : Nat) (bytes : List UInt8) :
    (hexBytes bytes).take (2 * count) = hexBytes (bytes.take count) := by
  induction bytes generalizing count with
  | nil => rw [List.take_nil]; exact List.take_nil
  | cons byte rest inductionHypothesis =>
      cases count with
      | zero => rfl
      | succ fewer =>
          rw [hexBytes_cons, List.take_succ_cons, hexBytes_cons, ← inductionHypothesis fewer,
            Nat.mul_succ, List.take_succ_cons, List.take_succ_cons]

end CodeGraph.Text
