import CodeGraph.Json.Parse
import CodeGraph.Json.Print
import CodeGraph.Proofs.Text.Hex

/-!
# Scalars are read back

`Takes` says that a reader takes a value off a text, wherever the text begins, and leaves what
follows.  Strings and whole numbers of 64 bits are taken off the texts that they are written as; a
number needs a follower that does not go on with it.
-/

set_option autoImplicit false

namespace CodeGraph.Json

/-- Wherever the text begins, the reader takes the value off it and leaves what follows. -/
def Takes {α : Type} (reader : Reader α) (text : List Char) (value : α) (rest : List Char) : Prop :=
  ∀ start, ∃ stop, reader ⟨text ++ rest, start⟩ = .ok (value, ⟨rest, stop⟩)

/-- Wherever the text begins, it is passed, and what follows is left. -/
def Passes (pass : Cursor → Except Fault Cursor) (text rest : List Char) : Prop :=
  ∀ start, ∃ stop, pass ⟨text ++ rest, start⟩ = .ok ⟨rest, stop⟩

theorem readLetters_passes (letters rest : List Char) :
    Passes (readLetters letters) letters rest := by
  induction letters with
  | nil => exact fun start => ⟨start, rfl⟩
  | cons letter later inductionHypothesis =>
      intro start
      obtain ⟨stop, passed⟩ := inductionHypothesis (start.after letter)
      refine ⟨stop, ?_⟩
      simp only [readLetters, List.cons_append, if_true]
      exact passed

theorem readLetters_takes {α : Type} (letters : List Char) (value : α) (rest : List Char) :
    Takes (fun cursor => do
        let cursor ← readLetters letters cursor
        return (value, cursor)) letters value rest := by
  intro start
  obtain ⟨stop, passed⟩ := readLetters_passes letters rest start
  refine ⟨stop, ?_⟩
  simp only [passed, bind, Except.bind]
  rfl

/-! ## Strings -/

section Strings

variable {c : Char} {rest : List Char} {start : Position}

theorem readEscape_short {letter : Char} (stands : shortEscape? letter = some c) :
    readEscape ⟨letter :: rest, start⟩ = .ok (c, ⟨rest, start.after letter⟩) := by
  have notUnicode : letter ≠ 'u' := by
    rintro rfl
    cases stands
  simp only [readEscape, stands]
  rfl

theorem readCharacters_quote (round : Char) (rounds : List Char) :
    readCharacters (round :: rounds) ⟨'"' :: rest, start⟩ = .ok ([], ⟨rest, start.after '"'⟩) := rfl

theorem readCharacters_plain (round : Char) (rounds : List Char) (notQuote : c ≠ '"')
    (notBackslash : c ≠ '\\') (printable : 0x20 ≤ c.toNat) :
    readCharacters (round :: rounds) ⟨c :: rest, start⟩ = do
      let (later, cursor) ← readCharacters rounds ⟨rest, start.after c⟩
      return (c :: later, cursor) := by
  simp only [readCharacters, if_neg (Nat.not_lt.mpr printable)]
  rfl

theorem readCharacters_escape (round : Char) (rounds : List Char) :
    readCharacters (round :: rounds) ⟨'\\' :: rest, start⟩ = do
      let (first, cursor) ← readEscape ⟨rest, start.after '\\'⟩
      let (later, cursor) ← readCharacters rounds cursor
      return (first :: later, cursor) := by
  simp only [readCharacters]
  rfl

end Strings

theorem readUnicodeEscape_takes {c : Char} (control : c.toNat < 0x20) (rest : List Char) :
    Takes readUnicodeEscape
      ['0', '0', Text.hexDigit (c.toNat / 16), Text.hexDigit (c.toNat % 16)] c rest := by
  intro start
  have zero : Text.hexValue? '0' = some 0 := by decide
  have high := Text.hexValue?_hexDigit (c.toNat / 16) (by omega)
  have low := Text.hexValue?_hexDigit (c.toNat % 16) (by omega)
  have unit : fourHex? '0' '0' (Text.hexDigit (c.toNat / 16)) (Text.hexDigit (c.toNat % 16)) =
      some c.toNat := by
    simp only [fourHex?, high, low, zero, Option.bind_eq_bind, Option.bind_some, Option.pure_def,
      Option.some.injEq]
    omega
  have notLow : isLowSurrogate c.toNat = false := by
    simp only [isLowSurrogate, Bool.and_eq_false_iff, decide_eq_false_iff_not]
    omega
  have notHigh : isHighSurrogate c.toNat = false := by
    simp only [isHighSurrogate, Bool.and_eq_false_iff, decide_eq_false_iff_not]
    omega
  simp only [readUnicodeEscape, readFourHex, List.cons_append, List.nil_append, unit, bind,
    Except.bind, notLow, notHigh, Bool.false_eq_true, if_false, Char.ofNat_toNat]
  exact ⟨_, rfl⟩

/-- A character is written as it is, or as a backslash and an escape that stands for it. -/
theorem escapedChar_cases (c : Char) :
    escapedChar c = [c] ∧ c ≠ '"' ∧ c ≠ '\\' ∧ 0x20 ≤ c.toNat ∨
      ∃ letters, escapedChar c = '\\' :: letters ∧ ∀ rest, Takes readEscape letters c rest := by
  have short : ∀ letter, shortEscape? letter = some c →
      ∀ rest, Takes readEscape [letter] c rest :=
    fun letter stands rest start => ⟨start.after letter, readEscape_short stands⟩
  unfold escapedChar
  split
  case isTrue marked =>
    refine Or.inr ⟨[c], rfl, short c ?_⟩
    rcases marked with rfl | rfl <;> rfl
  case isFalse unmarked =>
    obtain ⟨notQuote, notBackslash⟩ := not_or.mp unmarked
    split
    case isTrue isBackspace => exact Or.inr ⟨_, rfl, short 'b' (isBackspace ▸ rfl)⟩
    split
    case isTrue isFeed => exact Or.inr ⟨_, rfl, short 'f' (isFeed ▸ rfl)⟩
    split
    case isTrue isNewline => exact Or.inr ⟨_, rfl, short 'n' (isNewline ▸ rfl)⟩
    split
    case isTrue isReturn => exact Or.inr ⟨_, rfl, short 'r' (isReturn ▸ rfl)⟩
    split
    case isTrue isTab => exact Or.inr ⟨_, rfl, short 't' (isTab ▸ rfl)⟩
    split
    case isTrue control =>
      exact Or.inr ⟨_, rfl, fun rest start =>
        readUnicodeEscape_takes control rest (start.after 'u')⟩
    case isFalse printable => exact Or.inl ⟨rfl, notQuote, notBackslash, Nat.not_lt.mp printable⟩

theorem readCharacters_takes (characters rounds rest : List Char)
    (enough : characters.length < rounds.length) :
    Takes (readCharacters rounds) (characters.flatMap escapedChar ++ ['"']) characters rest := by
  induction characters generalizing rounds with
  | nil =>
      intro start
      cases rounds with
      | nil => simp at enough
      | cons round rounds => exact ⟨_, readCharacters_quote round rounds⟩
  | cons first later inductionHypothesis =>
      intro start
      cases rounds with
      | nil => simp at enough
      | cons round rounds =>
          have laterTakes := inductionHypothesis rounds (by simpa using enough)
          rcases escapedChar_cases first with
            ⟨isPlain, notQuote, notBackslash, printable⟩ | ⟨letters, isEscaped, escape⟩
          · obtain ⟨stop, taken⟩ := laterTakes (start.after first)
            refine ⟨stop, ?_⟩
            simp only [List.flatMap_cons, isPlain, List.cons_append, List.nil_append]
            rw [readCharacters_plain round rounds notQuote notBackslash printable, taken]
            rfl
          · obtain ⟨between, escaped⟩ :=
              escape (later.flatMap escapedChar ++ ['"'] ++ rest) (start.after '\\')
            obtain ⟨stop, taken⟩ := laterTakes between
            refine ⟨stop, ?_⟩
            have parts : (first :: later).flatMap escapedChar ++ ['"'] ++ rest =
                '\\' :: (letters ++ (later.flatMap escapedChar ++ ['"'] ++ rest)) := by
              simp [isEscaped]
            rw [parts, readCharacters_escape round rounds, escaped]
            simp only [bind, Except.bind, taken]
            rfl

theorem length_le_flatMap_escapedChar (characters : List Char) :
    characters.length ≤ (characters.flatMap escapedChar).length := by
  induction characters with
  | nil => simp
  | cons first later inductionHypothesis =>
      have positive : 0 < (escapedChar first).length := by
        rcases escapedChar_cases first with ⟨isPlain, _⟩ | ⟨letters, isEscaped, _⟩
        · simp [isPlain]
        · simp [isEscaped]
      rw [List.flatMap_cons, List.length_append, List.length_cons]
      omega

def quoteTail (text : String) : List Char :=
  text.toList.flatMap escapedChar ++ ['"']

theorem quote_eq (text : String) : quote text = '"' :: quoteTail text := rfl

theorem readQuoted_takes (text : String) (rest : List Char) :
    Takes readQuoted (quoteTail text) text rest := by
  intro start
  have enough : text.toList.length < (quoteTail text ++ rest).length := by
    have bound := length_le_flatMap_escapedChar text.toList
    simp only [quoteTail, List.length_append, List.length_singleton]
    omega
  obtain ⟨stop, taken⟩ :=
    readCharacters_takes text.toList (quoteTail text ++ rest) rest enough start
  refine ⟨stop, ?_⟩
  simp only [readQuoted, quoteTail, bind, Except.bind] at taken ⊢
  rw [taken]
  simp only [pure, Except.pure, String.ofList_toList]

/-! ## Numbers -/

def EndsNumber (rest : List Char) : Prop :=
  ∀ c ∈ rest.head?, c.isDigit = false ∧ c ≠ '.' ∧ c ≠ 'e' ∧ c ≠ 'E'

theorem skipFrom_eq {test : Char → Bool} {text rest : List Char}
    (passed : ∀ c ∈ text, test c = true) (stopped : ∀ c ∈ rest.head?, test c = false)
    (start : Position) : ∃ stop, Cursor.skipFrom test (text ++ rest) start = ⟨rest, stop⟩ := by
  induction text generalizing start with
  | nil =>
      refine ⟨start, ?_⟩
      cases rest with
      | nil => rfl
      | cons first later =>
          have stops := stopped first (by simp)
          simp [Cursor.skipFrom, stops]
  | cons first later inductionHypothesis =>
      obtain ⟨stop, skipped⟩ :=
        inductionHypothesis (fun c member => passed c (by simp [member])) (start.after first)
      refine ⟨stop, ?_⟩
      rw [List.cons_append, Cursor.skipFrom, if_pos (passed first (by simp)), skipped]

def StopsDigits (rest : List Char) : Prop :=
  ∀ c ∈ rest.head?, c.isDigit = false

theorem EndsNumber.stopsDigits {rest : List Char} (ends : EndsNumber rest) : StopsDigits rest :=
  fun c isHead => (ends c isHead).1

theorem takeDigits_eq {digits rest : List Char} (areDigits : ∀ c ∈ digits, c.isDigit = true)
    (stopped : StopsDigits rest) (start : Position) :
    ∃ stop, takeDigits ⟨digits ++ rest, start⟩ = (digits.map digitValue, ⟨rest, stop⟩) := by
  obtain ⟨stop, skipped⟩ := skipFrom_eq areDigits stopped start
  refine ⟨stop, ?_⟩
  have noneLater : rest.takeWhile Char.isDigit = [] := by
    cases rest with
    | nil => rfl
    | cons first later => simp [stopped first (by simp)]
  simp only [takeDigits, Cursor.skipWhile, skipped, List.takeWhile_append_of_pos areDigits,
    noneLater, List.append_nil]

/-- Digits whose value fits into 64 bits are all taken into the significand. -/
theorem gather_eq (digits : List Char) (significand : Nat)
    (fits : Nat.ofDigitChars 10 digits significand < UInt64.size) :
    gather significand (digits.map digitValue) =
      (Nat.ofDigitChars 10 digits significand, digits.length) := by
  induction digits generalizing significand with
  | nil => simp [gather]
  | cons first later inductionHypothesis =>
      have taken : significand * 10 + digitValue first =
          10 * significand + (first.toNat - '0'.toNat) := by
        simp only [digitValue, Nat.mul_comm]
        rfl
      rw [Nat.ofDigitChars_cons, ← taken] at fits ⊢
      have grows : significand * 10 + digitValue first < UInt64.size := by
        rw [Nat.ofDigitChars_eq_ofDigitChars_zero] at fits
        have positive : 0 < 10 ^ later.length := Nat.pow_pos (by omega)
        have atLeast := Nat.le_mul_of_pos_left (significand * 10 + digitValue first) positive
        omega
      rw [List.map_cons, gather, if_pos grows, inductionHypothesis _ fits]
      rfl

theorem digitChar_ne_zero : ∀ digit < 10, 0 < digit → digit.digitChar ≠ '0' := by
  decide

theorem first_toDigits_ne_zero {number : Nat} (positive : 0 < number) {first : Char}
    {later : List Char} (digits : Nat.toDigits 10 number = first :: later) : first ≠ '0' := by
  induction number using Nat.strongRecOn generalizing later with
  | ind number inductionHypothesis =>
      rw [Nat.toDigits_eq_if (by omega)] at digits
      split at digits
      case isTrue small =>
        rw [← (List.cons.inj digits).1]
        exact digitChar_ne_zero number small positive
      case isFalse large =>
        obtain ⟨head, tail, parts⟩ :=
          List.exists_cons_of_ne_nil (Nat.toDigits_ne_nil (n := number / 10) (b := 10))
        rw [parts, List.cons_append] at digits
        rw [(List.cons.inj digits).1] at parts
        exact inductionHypothesis (number / 10) (by omega) (by omega) parts

/-- A number that does not fill 64 bits is taken off its digits, with a sign before them or not. -/
theorem readNumber_takes (negative : Bool) {number : Nat} (fits : number < UInt64.size)
    {rest : List Char} (ends : EndsNumber rest) :
    Takes (readNumber negative) (Nat.toDigits 10 number) (wholeNumber negative number) rest := by
  intro start
  have areDigits : ∀ c ∈ Nat.toDigits 10 number, c.isDigit = true :=
    fun c member => Nat.isDigit_of_mem_toDigits (by omega) (by omega) member
  obtain ⟨stop, taken⟩ := takeDigits_eq areDigits ends.stopsDigits start
  have gathered := gather_eq (Nat.toDigits 10 number) 0
    (by rw [Nat.ofDigitChars_ten_toDigits]; exact fits)
  rw [Nat.ofDigitChars_ten_toDigits] at gathered
  obtain ⟨first, later, digits⟩ :=
    List.exists_cons_of_ne_nil (Nat.toDigits_ne_nil (n := number) (b := 10))
  have firstDigit : first.isDigit = true := areDigits first (by simp [digits])
  have noLeadingZero : ¬(first = '0' ∧ (later ++ rest).head?.any Char.isDigit = true) := by
    rintro ⟨isZero, goesOn⟩
    have numberZero : number = 0 := by
      rcases Nat.eq_zero_or_pos number with isNone | positive
      · exact isNone
      · exact absurd isZero (first_toDigits_ne_zero positive digits)
    rw [numberZero, Nat.toDigits_zero] at digits
    rw [← (List.cons.inj digits).2, List.nil_append] at goesOn
    cases follower : rest.head? with
    | none => simp [follower] at goesOn
    | some c => simp [follower, (ends c follower).1] at goesOn
  refine ⟨stop, ?_⟩
  rw [digits] at taken gathered ⊢
  simp only [readNumber, List.cons_append, firstDigit, Bool.not_true, Bool.false_eq_true, if_false,
    if_neg noLeadingZero] at taken ⊢
  simp only [taken, gathered, List.length_map, Nat.sub_self, if_true]
  split
  case h_1 isPoint => exact absurd rfl (ends '.' (by simp_all)).2.1
  case h_2 isSmall => exact absurd rfl (ends 'e' (by simp_all)).2.2.1
  case h_3 isLarge => exact absurd rfl (ends 'E' (by simp_all)).2.2.2
  case h_4 => rfl

/-- What a whole number has to be to stay one: 64 bits hold it, with a sign or without. -/
def Fits (value : Int) : Prop :=
  -(UInt64.size / 2 : Nat) ≤ value ∧ value < UInt64.size

theorem wholeNumber_natAbs {value : Int} (fits : Fits value) :
    wholeNumber (value < 0) value.natAbs = .whole value := by
  obtain ⟨lower, upper⟩ := fits
  unfold wholeNumber
  by_cases negative : value < 0
  · have notReal : ¬(value.natAbs = 0 ∨ UInt64.size / 2 < value.natAbs) := by omega
    simp only [negative, decide_true, if_true, if_neg notReal, Number.whole.injEq]
    omega
  · simp only [negative, decide_false, Bool.false_eq_true, if_false, Number.whole.injEq]
    omega

end CodeGraph.Json
