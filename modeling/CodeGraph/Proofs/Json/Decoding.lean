import CodeGraph.Json.Record
import CodeGraph.Proofs.Json.Skipping
import CodeGraph.Proofs.Json.Typed

/-!
# What the readers make of a value

`Settles` says that the outcome of a reader is a function of the value, whatever text the value has:
the reader takes the content off every text, or refuses every one.  There is one such function, and
one lemma, for each reader of a type.
-/

set_option autoImplicit false

namespace CodeGraph.Json

/-! ## Outcomes -/

/-- What was read and what follows it, without places and causes. -/
def outcome {α : Type} : Except Fault (α × Cursor) → Option (α × List Char)
  | .ok (content, cursor) => some (content, cursor.rest)
  | .error _ => none

section Outcomes

variable {α β : Type} {result : Except Fault (α × Cursor)} {rest : List Char}

theorem outcome_eq_some {content : α} (isSome : outcome result = some (content, rest)) :
    ∃ stop, result = .ok (content, ⟨rest, stop⟩) := by
  cases result with
  | error => cases isSome
  | ok taken =>
      obtain ⟨content, rest, stop⟩ := taken
      cases isSome
      exact ⟨stop, rfl⟩

theorem outcome_eq_none (isNone : outcome result = none) : ∃ fault, result = .error fault := by
  cases result with
  | error fault => exact ⟨fault, rfl⟩
  | ok taken => cases isNone

/-- What is done with what was read goes on at what follows it. -/
theorem outcome_bind {content : Option α} {next : α × Cursor → Except Fault (β × Cursor)}
    {contents : α → Option β} {behind : List Char}
    (settled : outcome result = content.map (·, rest))
    (continues : ∀ value stop,
      outcome (next (value, ⟨rest, stop⟩)) = (contents value).map (·, behind)) :
    outcome (result >>= next) = (content.bind contents).map (·, behind) := by
  cases content with
  | none =>
      obtain ⟨fault, rfl⟩ := outcome_eq_none settled
      rfl
  | some value =>
      obtain ⟨stop, rfl⟩ := outcome_eq_some settled
      exact continues value stop

theorem outcome_map {content : Option α} (f : α → β)
    (settled : outcome result = content.map (·, rest)) :
    outcome (do
      let (value, cursor) ← result
      return (f value, cursor)) = (content.map f).map (·, rest) := by
  cases content with
  | none =>
      obtain ⟨fault, rfl⟩ := outcome_eq_none settled
      rfl
  | some value =>
      obtain ⟨stop, rfl⟩ := outcome_eq_some settled
      rfl

end Outcomes

/-- Blanks in front make no difference to the reader, and its outcome on a text of a value is what
the value decodes as. -/
structure Settles {α : Type} (reader : Reader α) (decode : Tree → Option α) : Prop where
  blanks : ∀ cursor, reader cursor = reader cursor.skipBlanks
  outcome_eq : ∀ {tree text rest} (start : Position), Spells (.value tree) text rest →
    outcome (reader ⟨text, start⟩) = (decode tree).map (·, rest)

theorem Settles.behind_blanks {α : Type} {reader : Reader α} {decode : Tree → Option α}
    (settles : Settles reader decode) {tree : Tree} {text value rest : List Char}
    (blanks : Blanks text value) (spells : Spells (.value tree) value rest) (start : Position) :
    outcome (reader ⟨text, start⟩) = (decode tree).map (·, rest) := by
  obtain ⟨first, later, rfl, begins⟩ := spells.begins
  obtain ⟨stop, skipped⟩ := blanks.skips_to begins.notBlank start
  rw [settles.blanks, skipped]
  exact settles.outcome_eq stop spells

theorem skipBlanks_skipBlanks (cursor : Cursor) :
    cursor.skipBlanks.skipBlanks = cursor.skipBlanks := by
  obtain ⟨text, start⟩ := cursor
  simp only [Cursor.skipBlanks, Cursor.skipWhile]
  induction text generalizing start with
  | nil => rfl
  | cons first later inductionHypothesis =>
      by_cases blank : isJsonBlank first = true
      · simp only [Cursor.skipFrom, if_pos blank]
        exact inductionHypothesis _
      · simp only [Cursor.skipFrom, if_neg blank]

theorem valueStart_skipBlanks (cursor : Cursor) :
    valueStart cursor.skipBlanks = valueStart cursor := by
  simp only [valueStart, skipBlanks_skipBlanks]

/-! ## Refusals -/

theorem refuse_outcome {α : Type} (expected : String) (cursor : Cursor) :
    outcome (refuse (α := α) expected cursor) = none := by
  unfold refuse
  cases readFound cursor <;> rfl

/-- The reader refuses what begins with any other character than these. -/
def OpensWith {α : Type} (reader : Reader α) (openings : List Char) : Prop :=
  ∀ first later start, isJsonBlank first = false → first ∉ openings →
    outcome (reader ⟨first :: later, start⟩) = none

theorem OpensWith.refuses {α : Type} {reader : Reader α} {openings : List Char}
    (opensWith : OpensWith reader openings) {tree : Tree} {text rest : List Char}
    (spells : Spells (.value tree) text rest)
    (others : ∀ opening ∈ openings, ¬tree.BeginsWith opening) (start : Position) :
    outcome (reader ⟨text, start⟩) = none := by
  obtain ⟨first, later, rfl, begins⟩ := spells.begins
  exact opensWith first later start begins.notBlank fun isOpening => others first isOpening begins

/-! ## Strings -/

section Strings

def readSecondHalf (high : Nat) : Reader Char := fun c => do
  let c ← readPairMark '\\' c
  let c ← readPairMark 'u' c
  let (low, c) ← readFourHex c
  if isLowSurrogate low then return (pairedChar high low, c) else throw (c.fault .loneSurrogate)

theorem readEscape_unit {digits : Char × Char × Char × Char} {value : Nat}
    (stands : fourHex? digits.1 digits.2.1 digits.2.2.1 digits.2.2.2 = some value)
    (rest : List Char) (start : Position) :
    ∃ between, readEscape
        ⟨'u' :: digits.1 :: digits.2.1 :: digits.2.2.1 :: digits.2.2.2 :: rest, start⟩ =
      if isLowSurrogate value then throw (Cursor.fault ⟨rest, between⟩ .loneSurrogate)
      else if isHighSurrogate value then readSecondHalf value ⟨rest, between⟩
      else return (Char.ofNat value, ⟨rest, between⟩) := by
  obtain ⟨between, taken⟩ := readFourHex_unit digits stands rest (start.after 'u')
  refine ⟨between, ?_⟩
  simp only [List.cons_append, List.nil_append] at taken
  simp only [readEscape, Cursor.next, readUnicodeEscape, taken]
  rfl

theorem readSecondHalf_unit (high : Nat) {digits : Char × Char × Char × Char} {low : Nat}
    (stands : fourHex? digits.1 digits.2.1 digits.2.2.1 digits.2.2.2 = some low)
    (rest : List Char) (start : Position) :
    ∃ between, readSecondHalf high
        ⟨'\\' :: 'u' :: digits.1 :: digits.2.1 :: digits.2.2.1 :: digits.2.2.2 :: rest, start⟩ =
      if isLowSurrogate low then return (pairedChar high low, ⟨rest, between⟩)
      else throw (Cursor.fault ⟨rest, between⟩ .loneSurrogate) := by
  obtain ⟨between, taken⟩ :=
    readFourHex_unit digits stands rest ((start.after '\\').after 'u')
  refine ⟨between, ?_⟩
  simp only [List.cons_append, List.nil_append] at taken
  simp only [readSecondHalf, readPairMark, if_true, Cursor.next, bind, Except.bind, taken]

/-- A first half that no other unit follows stands alone. -/
theorem readSecondHalf_alone (high : Nat) {pieces : List Piece}
    (noUnit : ∀ digits low stands later, pieces ≠ .unit digits low stands :: later)
    (rest : List Char) (start : Position) :
    ∃ fault, readSecondHalf high ⟨spelling pieces ++ '"' :: rest, start⟩ = .error fault := by
  cases pieces with
  | nil => exact ⟨_, rfl⟩
  | cons piece later =>
      cases piece with
      | plain c unescaped =>
          simp only [spelling_cons, Piece.spelling, List.cons_append, readSecondHalf, readPairMark,
            if_neg (isUnescaped_iff.mp unescaped).2.1]
          exact ⟨_, rfl⟩
      | short letter c stands =>
          have notUnicode : letter ≠ 'u' := by
            rintro rfl
            cases stands
          simp only [spelling_cons, Piece.spelling, List.cons_append, readSecondHalf, readPairMark,
            if_true, Cursor.next, bind, Except.bind, if_neg notUnicode]
          exact ⟨_, rfl⟩
      | unit digits low stands => exact absurd rfl (noUnit digits low stands later)

theorem readCharacters_escaped {escape rest : List Char} {c : Char} {start stop : Position}
    (escaped : readEscape ⟨escape, start.after '\\'⟩ = .ok (c, ⟨rest, stop⟩)) (round : Char)
    {rounds behind : List Char} {content : Option (List Char)}
    (settled : outcome (readCharacters rounds ⟨rest, stop⟩) = content.map (·, behind)) :
    outcome (readCharacters (round :: rounds) ⟨'\\' :: escape, start⟩) =
      (content.map (c :: ·)).map (·, behind) := by
  rw [readCharacters_escape, escaped]
  exact outcome_map (c :: ·) settled

theorem readCharacters_misescaped {escape : List Char} {fault : Fault} {start : Position}
    (misescaped : readEscape ⟨escape, start.after '\\'⟩ = .error fault) (round : Char)
    (rounds : List Char) :
    outcome (readCharacters (round :: rounds) ⟨'\\' :: escape, start⟩) = none := by
  rw [readCharacters_escape, misescaped]
  rfl

theorem characters?_unit {digits : Char × Char × Char × Char} {value : Nat}
    (stands : fourHex? digits.1 digits.2.1 digits.2.2.1 digits.2.2.2 = some value)
    (later : List Piece) :
    characters? (.unit digits value stands :: later) =
      if isLowSurrogate value then none
      else if isHighSurrogate value then
        match later with
        | .unit _ low _ :: later =>
            if isLowSurrogate low then (characters? later).map (pairedChar value low :: ·) else none
        | _ => none
      else (characters? later).map (Char.ofNat value :: ·) :=
  characters?.eq_def _

theorem characters?_alone {digits : Char × Char × Char × Char} {value : Nat}
    {stands : fourHex? digits.1 digits.2.1 digits.2.2.1 digits.2.2.2 = some value}
    {later : List Piece}
    (noUnit : ∀ digits low stands behind, later ≠ .unit digits low stands :: behind)
    (isHigh : isHighSurrogate value = true) :
    characters? (.unit digits value stands :: later) = none := by
  rw [characters?_unit, if_pos isHigh]
  split
  case isTrue => rfl
  case isFalse =>
    split
    case h_1 _ digits low stands behind => exact absurd rfl (noUnit digits low stands behind)
    case h_2 => rfl

theorem readCharacters_outcome (pieces : List Piece) {rounds : List Char}
    (enough : pieces.length < rounds.length) (rest : List Char) (start : Position) :
    outcome (readCharacters rounds ⟨spelling pieces ++ '"' :: rest, start⟩) =
      (characters? pieces).map (·, rest) := by
  induction pieces using characters?.induct generalizing rounds start with
  | case1 =>
      obtain ⟨round, rounds, rfl⟩ := List.exists_cons_of_length_pos enough
      rfl
  | case2 c unescaped later inductionHypothesis =>
      obtain ⟨round, rounds, rfl⟩ := List.exists_cons_of_length_pos (Nat.zero_lt_of_lt enough)
      have settled := inductionHypothesis (Nat.lt_of_succ_lt_succ enough) (start.after c)
      obtain ⟨notQuote, notBackslash, printable⟩ := isUnescaped_iff.mp unescaped
      rw [spelling_cons, Piece.spelling, List.singleton_append,
        readCharacters_plain round rounds notQuote notBackslash printable]
      exact outcome_map (c :: ·) settled
  | case3 letter c stands later inductionHypothesis =>
      obtain ⟨round, rounds, rfl⟩ := List.exists_cons_of_length_pos (Nat.zero_lt_of_lt enough)
      rw [spelling_cons]
      exact readCharacters_escaped (readEscape_short stands) round
        (inductionHypothesis (Nat.lt_of_succ_lt_succ enough) _)
  | case4 digits value stands later isLow =>
      obtain ⟨round, rounds, rfl⟩ := List.exists_cons_of_length_pos (Nat.zero_lt_of_lt enough)
      obtain ⟨between, escaped⟩ :=
        readEscape_unit stands (spelling later ++ '"' :: rest) (start.after '\\')
      rw [if_pos isLow] at escaped
      rw [spelling_cons, characters?_unit, if_pos isLow]
      exact readCharacters_misescaped escaped round rounds
  | case5 digits value stands notLow isHigh lowDigits low lowStands later isLow
      inductionHypothesis =>
      obtain ⟨round, rounds, rfl⟩ := List.exists_cons_of_length_pos (Nat.zero_lt_of_lt enough)
      have shorter : later.length < rounds.length := by
        simp only [List.length_cons] at enough
        omega
      obtain ⟨between, escaped⟩ := readEscape_unit stands
        (Piece.spelling (.unit lowDigits low lowStands) ++ (spelling later ++ '"' :: rest))
        (start.after '\\')
      obtain ⟨behind, second⟩ :=
        readSecondHalf_unit value lowStands (spelling later ++ '"' :: rest) between
      rw [if_neg notLow, if_pos isHigh] at escaped
      rw [if_pos isLow] at second
      rw [spelling_cons, spelling_cons, characters?_unit, if_neg notLow, if_pos isHigh]
      simp only [if_pos isLow]
      exact readCharacters_escaped (escaped.trans second) round (inductionHypothesis shorter behind)
  | case6 digits value stands notLow isHigh lowDigits low lowStands later otherNotLow =>
      obtain ⟨round, rounds, rfl⟩ := List.exists_cons_of_length_pos (Nat.zero_lt_of_lt enough)
      obtain ⟨between, escaped⟩ := readEscape_unit stands
        (Piece.spelling (.unit lowDigits low lowStands) ++ (spelling later ++ '"' :: rest))
        (start.after '\\')
      obtain ⟨behind, second⟩ :=
        readSecondHalf_unit value lowStands (spelling later ++ '"' :: rest) between
      rw [if_neg notLow, if_pos isHigh] at escaped
      rw [if_neg otherNotLow] at second
      rw [spelling_cons, spelling_cons, characters?_unit, if_neg notLow, if_pos isHigh]
      simp only [if_neg otherNotLow]
      exact readCharacters_misescaped (escaped.trans second) round rounds
  | case7 digits value stands later notLow isHigh noUnit =>
      obtain ⟨round, rounds, rfl⟩ := List.exists_cons_of_length_pos (Nat.zero_lt_of_lt enough)
      obtain ⟨between, escaped⟩ :=
        readEscape_unit stands (spelling later ++ '"' :: rest) (start.after '\\')
      obtain ⟨fault, alone⟩ := readSecondHalf_alone value noUnit rest between
      rw [if_neg notLow, if_pos isHigh] at escaped
      rw [spelling_cons, characters?_alone noUnit isHigh]
      exact readCharacters_misescaped (escaped.trans alone) round rounds
  | case8 digits value stands later notLow notHigh inductionHypothesis =>
      obtain ⟨round, rounds, rfl⟩ := List.exists_cons_of_length_pos (Nat.zero_lt_of_lt enough)
      obtain ⟨between, escaped⟩ :=
        readEscape_unit stands (spelling later ++ '"' :: rest) (start.after '\\')
      rw [if_neg notLow, if_neg notHigh] at escaped
      rw [spelling_cons, characters?_unit, if_neg notLow, if_neg notHigh]
      exact readCharacters_escaped escaped round
        (inductionHypothesis (Nat.lt_of_succ_lt_succ enough) between)

theorem readQuoted_outcome (pieces : List Piece) (rest : List Char) (start : Position) :
    outcome (readQuoted ⟨spelling pieces ++ '"' :: rest, start⟩) =
      (content? pieces).map (·, rest) := by
  have bound := length_le_spelling pieces
  have enough : pieces.length < (spelling pieces ++ '"' :: rest).length := by
    rw [List.length_append, List.length_cons]
    omega
  exact outcome_map String.ofList (readCharacters_outcome pieces enough rest start)

end Strings

/-! ## Scalars -/

def Tree.text? : Tree → Option String
  | text content => content
  | _ => none

theorem readText_opensWith : OpensWith readText ['"'] := by
  intro first later start notBlank other
  simp only [readText, valueStart_eq notBlank, bind, Except.bind]
  split
  case h_1 quoted => exact absurd (List.cons.inj quoted).1 (List.ne_of_not_mem_cons other)
  case h_2 => exact refuse_outcome _ _

theorem settles_text : Settles readText Tree.text? where
  blanks cursor := by simp only [readText, valueStart_skipBlanks]
  outcome_eq {tree text rest} start spells := by
    have refused := readText_opensWith.refuses spells
    cases spells with
    | text pieces => exact readQuoted_outcome pieces rest (start.after '"')
    | null | isTrue | isFalse | number | list | object =>
        exact refused (by simp [Tree.BeginsWith]) start

/-! ## Whole numbers -/

section Numbers

variable {negative : Bool} {significand : Nat} {cursor behind : Cursor} {number : Number}

theorem realNumber_isReal {exponent : Int}
    (taken : realNumber negative significand exponent cursor = .ok (number, behind)) :
    ∃ value, number = .real value := by
  unfold realNumber at taken
  split at taken
  case h_1 value _ =>
    cases taken
    exact ⟨_, rfl⟩
  case h_2 => cases taken

theorem readExponent_isReal {shift : Int}
    (taken : readExponent negative significand shift cursor = .ok (number, behind)) :
    ∃ value, number = .real value := by
  unfold readExponent at taken
  extract_lets shrinks passed at taken
  split at taken
  case h_1 => cases taken
  case h_2 first _ _ =>
    split at taken
    case isTrue => cases taken
    case isFalse =>
      simp only at taken
      split at taken
      case h_1 => exact realNumber_isReal taken
      case h_2 =>
        split at taken
        case isTrue => cases taken
        case isFalse =>
          cases taken
          exact ⟨_, rfl⟩

theorem readFraction_isReal {missing : Nat}
    (taken : readFraction negative significand missing cursor = .ok (number, behind)) :
    ∃ value, number = .real value := by
  unfold readFraction at taken
  simp only at taken
  split at taken
  case isTrue => split at taken <;> cases taken
  case isFalse =>
    split at taken
    case h_1 => exact readExponent_isReal taken
    case h_2 => exact readExponent_isReal taken
    case h_3 => exact realNumber_isReal taken

def readBehindDigits (negative : Bool) (digits : List Nat) : Reader Number := fun behind =>
  let (significand, count) := gather 0 digits
  let missing := digits.length - count
  match behind.rest with
  | '.' :: _ => readFraction negative significand missing behind.next
  | 'e' :: _ | 'E' :: _ => readExponent negative significand missing behind.next
  | _ =>
      if missing = 0 then .ok (wholeNumber negative significand, behind)
      else realNumber negative significand missing behind

theorem Numeral.readNumber_eq (numeral : Numeral) (negative : Bool) {rest : List Char}
    (stops : StopsDigits rest) (start : Position) :
    ∃ stop, readNumber negative ⟨numeral.whole.list ++ rest, start⟩ =
      readBehindDigits negative (numeral.whole.list.map digitValue) ⟨rest, stop⟩ := by
  obtain ⟨stop, taken⟩ := takeDigits_eq numeral.whole.areDigits stops start
  obtain ⟨first, later, digits⟩ := List.exists_cons_of_ne_nil numeral.whole.nonempty
  have firstDigit : first.isDigit = true := numeral.whole.areDigits first (by simp [digits])
  have noLeadingZero : ¬(first = '0' ∧ (later ++ rest).head?.any Char.isDigit = true) := by
    rintro ⟨rfl, goesOn⟩
    rw [numeral.noLeadingZero later digits, List.nil_append] at goesOn
    cases follower : rest.head? with
    | none => simp [follower] at goesOn
    | some c => simp [follower, stops c follower] at goesOn
  refine ⟨stop, ?_⟩
  rw [digits] at taken ⊢
  simp only [readNumber, List.cons_append, firstDigit, Bool.not_true, Bool.false_eq_true, if_false,
    if_neg noLeadingZero] at taken ⊢
  simp only [taken]
  rfl

theorem readBehindDigits_isReal {digits : List Nat} {first : Char} {later : List Char}
    {start : Position} (goesOn : first = '.' ∨ first = 'e' ∨ first = 'E')
    (taken : readBehindDigits negative digits ⟨first :: later, start⟩ = .ok (number, behind)) :
    ∃ value, number = .real value := by
  rcases goesOn with rfl | rfl | rfl
  · exact readFraction_isReal taken
  · exact readExponent_isReal taken
  · exact readExponent_isReal taken

theorem readBehindDigits_ends (negative : Bool) (digits : List Nat) {rest : List Char}
    (ends : EndsNumber rest) (start : Position) :
    readBehindDigits negative digits ⟨rest, start⟩ =
      if digits.length - (gather 0 digits).2 = 0 then
        .ok (wholeNumber negative (gather 0 digits).1, ⟨rest, start⟩)
      else
        realNumber negative (gather 0 digits).1 (digits.length - (gather 0 digits).2 : Nat)
          ⟨rest, start⟩ := by
  unfold readBehindDigits
  obtain ⟨significand, count⟩ := gather 0 digits
  simp only
  split
  case h_1 isPoint => exact absurd rfl (ends '.' (by simp_all)).2.1
  case h_2 isSmall => exact absurd rfl (ends 'e' (by simp_all)).2.2.1
  case h_3 isLarge => exact absurd rfl (ends 'E' (by simp_all)).2.2.2
  case h_4 => rfl

/-- Digits that are all taken have a value of 64 bits. -/
theorem ofDigitChars_lt_of_gather {digits : List Char} {significand : Nat}
    (small : significand < UInt64.size)
    (all : digits.length ≤ (gather significand (digits.map digitValue)).2) :
    Nat.ofDigitChars 10 digits significand < UInt64.size := by
  induction digits generalizing significand with
  | nil => exact small
  | cons first later inductionHypothesis =>
      have taken : significand * 10 + digitValue first =
          10 * significand + (first.toNat - '0'.toNat) := by
        simp only [digitValue, Nat.mul_comm]
        rfl
      rw [List.map_cons, gather] at all
      split at all
      case isTrue fits =>
        rw [Nat.ofDigitChars_cons, ← taken]
        exact inductionHypothesis fits (Nat.le_of_succ_le_succ all)
      case isFalse => simp at all

namespace Numeral

variable {numeral : Numeral} {rest : List Char}

theorem IsWhole.unsigned_eq {bound : Nat} (isWhole : numeral.IsWhole bound) :
    numeral.unsigned = numeral.whole.list := by
  simp [unsigned, fractionSpelling, exponentSpelling, isWhole.noFraction, isWhole.noExponent]

theorem readNumber_whole (isWhole : numeral.IsWhole UInt64.size) (ends : EndsNumber rest)
    (negative : Bool) :
    Takes (readNumber negative) numeral.unsigned (wholeNumber negative numeral.magnitude) rest := by
  intro start
  obtain ⟨stop, behindDigits⟩ := numeral.readNumber_eq negative ends.stopsDigits start
  have gathered := gather_eq numeral.whole.list 0 isWhole.less
  refine ⟨stop, ?_⟩
  rw [isWhole.unsigned_eq, behindDigits, readBehindDigits_ends negative _ ends, gathered,
    List.length_map, Nat.sub_self, if_pos rfl]
  rfl

/-- Any other number is read as a real one, if it is read. -/
theorem readNumber_isReal (notWhole : ¬numeral.IsWhole UInt64.size) (ends : EndsNumber rest)
    {start : Position}
    (taken : readNumber negative ⟨numeral.unsigned ++ rest, start⟩ = .ok (number, behind)) :
    ∃ value, number = .real value := by
  obtain ⟨stop, behindDigits⟩ :=
    numeral.readNumber_eq negative (numeral.stopsDigits_fraction ends) start
  rw [unsigned, List.append_assoc, List.append_assoc, behindDigits] at taken
  cases fraction : numeral.fraction with
  | some digits =>
      simp only [fractionSpelling, fraction, Option.elim_some, List.cons_append] at taken
      exact readBehindDigits_isReal (Or.inl rfl) taken
  | none =>
      simp only [fractionSpelling, fraction, Option.elim_none, List.nil_append] at taken
      cases exponent : numeral.exponent with
      | some parts =>
          simp only [exponentSpelling, exponent, Option.elim_some, Exponent.spelling,
            List.cons_append] at taken
          exact readBehindDigits_isReal (Or.inr parts.isMark) taken
      | none =>
          simp only [exponentSpelling, exponent, Option.elim_none, List.nil_append,
            readBehindDigits_ends negative _ ends] at taken
          split at taken
          case isTrue all =>
            rw [List.length_map] at all
            have fits := ofDigitChars_lt_of_gather (by decide) (Nat.le_of_sub_eq_zero all)
            exact absurd ⟨fraction, exponent, fits⟩ notWhole
          case isFalse => exact realNumber_isReal taken

end Numeral

def acceptBelow (bound : Nat) (expected : String) : Number × Cursor → Except Fault (Nat × Cursor)
  | (.whole value, cursor) =>
      if 0 ≤ value ∧ value < bound then .ok (value.toNat, cursor)
      else .error (cursor.fault (.wrongValue value expected))
  | (.real value, cursor) => .error (cursor.fault (.wrongType (.real value) expected))

theorem readBelow_sign (bound : Nat) (expected : String) (later : List Char) (start : Position) :
    readBelow bound expected ⟨'-' :: later, start⟩ =
      readNumber true ⟨later, start.after '-'⟩ >>= acceptBelow bound expected := by
  have notBlank : isJsonBlank '-' = false := rfl
  simp only [readBelow, valueStart_eq notBlank, bind, Except.bind, Cursor.next]
  cases readNumber true ⟨later, start.after '-'⟩ with
  | error => rfl
  | ok taken =>
      obtain ⟨number, cursor⟩ := taken
      cases number <;> rfl

theorem readBelow_digit (bound : Nat) (expected : String) {first : Char}
    (digit : first.isDigit = true) (later : List Char) (start : Position) :
    readBelow bound expected ⟨first :: later, start⟩ =
      readNumber false ⟨first :: later, start⟩ >>= acceptBelow bound expected := by
  have notBlank := notBlank_of_beginsNumber (Or.inr digit)
  have notSign : first ≠ '-' := ne_of_isDigit digit (by decide)
  unfold readBelow
  simp only [valueStart_eq notBlank, bind, Except.bind, digit, if_true]
  cases readNumber false ⟨first :: later, start⟩ with
  | error => rfl
  | ok taken =>
      obtain ⟨number, cursor⟩ := taken
      cases number <;> rfl

theorem readBelow_refuses (bound : Nat) (expected : String) {first : Char}
    (notBlank : isJsonBlank first = false) (notSign : first ≠ '-')
    (notDigit : first.isDigit = false) (later : List Char) (start : Position) :
    outcome (readBelow bound expected ⟨first :: later, start⟩) = none := by
  unfold readBelow
  simp only [valueStart_eq notBlank, bind, Except.bind, notDigit, Bool.false_eq_true, if_false]
  exact refuse_outcome _ _

theorem outcome_acceptBelow_whole (bound : Nat) (expected : String) (value : Int)
    (cursor : Cursor) :
    outcome (acceptBelow bound expected (.whole value, cursor)) =
      if 0 ≤ value ∧ value < bound then some (value.toNat, cursor.rest) else none := by
  simp only [acceptBelow]
  split <;> rfl

theorem outcome_acceptBelow_of_isReal (bound : Nat) (expected : String)
    {result : Except Fault (Number × Cursor)}
    (isReal : ∀ number behind, result = .ok (number, behind) → ∃ value, number = .real value) :
    outcome (result >>= acceptBelow bound expected) = none := by
  cases result with
  | error => rfl
  | ok taken =>
      obtain ⟨number, behind⟩ := taken
      obtain ⟨value, rfl⟩ := isReal number behind rfl
      rfl

namespace Numeral

variable {numeral : Numeral} {rest : List Char}

theorem outcome_negative (numeral : Numeral) (bound : Nat) (expected : String)
    (ends : EndsNumber rest) (start : Position) :
    outcome (readNumber true ⟨numeral.unsigned ++ rest, start⟩ >>= acceptBelow bound expected) =
      none := by
  by_cases isWhole : numeral.IsWhole UInt64.size
  · obtain ⟨stop, taken⟩ := readNumber_whole isWhole ends true start
    rw [taken]
    show outcome (acceptBelow bound expected _) = none
    unfold wholeNumber
    rw [if_pos rfl]
    split
    case isTrue => rfl
    case isFalse isSmall =>
      rw [outcome_acceptBelow_whole, if_neg]
      omega
  · exact outcome_acceptBelow_of_isReal bound expected
      fun number behind taken => readNumber_isReal isWhole ends taken

theorem outcome_unsigned (numeral : Numeral) {bound : Nat} (small : bound ≤ UInt64.size)
    (expected : String) (ends : EndsNumber rest) (start : Position) :
    outcome (readNumber false ⟨numeral.unsigned ++ rest, start⟩ >>= acceptBelow bound expected) =
      if numeral.IsWhole bound then some (numeral.magnitude, rest) else none := by
  by_cases isWhole : numeral.IsWhole UInt64.size
  · obtain ⟨stop, taken⟩ := readNumber_whole isWhole ends false start
    have below : numeral.IsWhole bound ↔ numeral.magnitude < bound :=
      ⟨fun isBelow => isBelow.less, fun less => ⟨isWhole.noFraction, isWhole.noExponent, less⟩⟩
    rw [taken]
    show outcome (acceptBelow bound expected (.whole numeral.magnitude, _)) = _
    rw [outcome_acceptBelow_whole]
    simp [below]
  · have notBelow : ¬numeral.IsWhole bound := fun isBelow =>
      isWhole ⟨isBelow.noFraction, isBelow.noExponent, Nat.lt_of_lt_of_le isBelow.less small⟩
    rw [if_neg notBelow]
    exact outcome_acceptBelow_of_isReal bound expected
      fun number behind taken => readNumber_isReal isWhole ends taken

end Numeral

end Numbers

def Tree.word? : Tree → Option UInt32
  | number numeral =>
      if numeral.IsBelow UInt32.size then some (.ofNat numeral.magnitude) else none
  | _ => none

theorem Numeral.readBelow_outcome {numeral : Numeral} {bound : Nat} (small : bound ≤ UInt64.size)
    (expected : String) {rest : List Char} (ends : EndsNumber rest) (start : Position) :
    outcome (readBelow bound expected ⟨numeral.spelling ++ rest, start⟩) =
      (if numeral.IsBelow bound then some numeral.magnitude else none).map (·, rest) := by
  unfold spelling
  by_cases negative : numeral.negative = true
  · have notBelow : ¬numeral.IsBelow bound := fun isBelow => by simp [isBelow.1] at negative
    rw [if_pos negative, if_neg notBelow, List.cons_append, readBelow_sign]
    exact numeral.outcome_negative bound expected ends _
  · have isBelow_iff : numeral.IsBelow bound ↔ numeral.IsWhole bound :=
      and_iff_right (Bool.eq_false_iff.mpr negative)
    obtain ⟨first, later, parts, digit⟩ := numeral.unsigned_cons
    have unsigned := numeral.outcome_unsigned small expected ends start
    rw [parts, List.cons_append] at unsigned
    rw [if_neg negative, parts, List.cons_append, readBelow_digit bound expected digit, unsigned]
    simp only [isBelow_iff]
    split <;> rfl

theorem settles_word : Settles readWord Tree.word? where
  blanks cursor := by simp only [readWord, readBelow, valueStart_skipBlanks]
  outcome_eq {tree text rest} start spells := by
    have refused : ∀ {first : Char} (later : List Char), isJsonBlank first = false →
        first ≠ '-' → first.isDigit = false →
          outcome (readWord ⟨first :: later, start⟩) = none := by
      intro first later notBlank notSign notDigit
      have refused : outcome (readBelow UInt32.size "u32" ⟨first :: later, start⟩) =
          (none : Option Nat).map (·, rest) :=
        readBelow_refuses _ _ notBlank notSign notDigit later start
      exact outcome_map UInt32.ofNat refused
    cases spells with
    | number numeral ends =>
        have read := outcome_map UInt32.ofNat
          (numeral.readBelow_outcome (by decide : UInt32.size ≤ UInt64.size) "u32" ends start)
        rw [Tree.word?, readWord, read]
        split <;> rfl
    | null | isTrue | isFalse | text | list | object => exact refused _ rfl (by decide) rfl

end CodeGraph.Json
