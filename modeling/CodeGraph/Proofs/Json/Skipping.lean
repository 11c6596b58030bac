import CodeGraph.Json.Skip
import CodeGraph.Proofs.Json.Grammar

/-!
# Every value is passed

`skipValue` gets behind every text of a JSON value, however deep it nests, whatever its numbers are
and wherever a surrogate stands alone in its strings.
-/

set_option autoImplicit false

namespace CodeGraph.Json

/-! ## Strings -/

section Strings

theorem spelling_cons (piece : Piece) (later : List Piece) (behind : List Char) :
    spelling (piece :: later) ++ behind = piece.spelling ++ (spelling later ++ behind) := by
  simp [spelling]

theorem readFourHex_unit (digits : Char × Char × Char × Char) {value : Nat}
    (stands : fourHex? digits.1 digits.2.1 digits.2.2.1 digits.2.2.2 = some value)
    (rest : List Char) :
    Takes readFourHex [digits.1, digits.2.1, digits.2.2.1, digits.2.2.2] value rest := by
  intro start
  simp only [readFourHex, List.cons_append, List.nil_append, stands]
  exact ⟨_, rfl⟩

theorem skipCharacters_spelling (pieces : List Piece) {rounds : List Char}
    (enough : pieces.length < rounds.length) (rest : List Char) :
    Passes (skipCharacters rounds) (spelling pieces ++ ['"']) rest := by
  induction pieces generalizing rounds with
  | nil =>
      intro start
      cases rounds with
      | nil => simp at enough
      | cons round rounds => exact ⟨_, rfl⟩
  | cons piece later inductionHypothesis =>
      intro start
      cases rounds with
      | nil => simp at enough
      | cons round rounds =>
          have laterPasses := inductionHypothesis (Nat.lt_of_succ_lt_succ enough)
          rw [spelling_cons, List.append_assoc]
          cases piece with
          | plain c unescaped =>
              obtain ⟨stop, passed⟩ := laterPasses (start.after c)
              refine ⟨stop, ?_⟩
              obtain ⟨notQuote, notBackslash, printable⟩ := isUnescaped_iff.mp unescaped
              rw [← passed]
              simp only [Piece.spelling, List.cons_append, List.nil_append, skipCharacters,
                if_neg (Nat.not_lt.mpr printable)]
              rfl
          | short letter c stands =>
              obtain ⟨stop, passed⟩ := laterPasses ((start.after '\\').after letter)
              refine ⟨stop, ?_⟩
              rw [← passed]
              have notUnicode : letter ≠ 'u' := by
                rintro rfl
                cases stands
              simp only [Piece.spelling, List.cons_append, List.nil_append, skipCharacters,
                Cursor.next, skipEscape, stands]
              rfl
          | unit digits value stands =>
              obtain ⟨between, taken⟩ := readFourHex_unit digits stands
                (spelling later ++ ['"'] ++ rest) ((start.after '\\').after 'u')
              obtain ⟨stop, passed⟩ := laterPasses between
              refine ⟨stop, ?_⟩
              rw [← passed]
              simp only [Piece.spelling, List.cons_append, List.nil_append, skipCharacters,
                Cursor.next, skipEscape] at taken ⊢
              rw [taken]
              rfl

theorem length_le_spelling (pieces : List Piece) : pieces.length ≤ (spelling pieces).length := by
  induction pieces with
  | nil => simp [spelling]
  | cons piece later inductionHypothesis =>
      have positive : 0 < piece.spelling.length := by cases piece <;> simp [Piece.spelling]
      have parts := spelling_cons piece later []
      simp only [List.append_nil] at parts
      rw [parts, List.length_append, List.length_cons]
      omega

theorem skipQuoted_spelling (pieces : List Piece) (rest : List Char) :
    Passes skipQuoted (spelling pieces ++ ['"']) rest := by
  intro start
  have bound := length_le_spelling pieces
  exact skipCharacters_spelling pieces (by simp; omega) rest start

end Strings

/-! ## Numbers -/

section Numbers

variable {rest : List Char}

theorem stopsDigits_cons {first : Char} (notDigit : first.isDigit = false) (later : List Char) :
    StopsDigits (first :: later) := by
  intro c isHead
  obtain rfl : first = c := by simpa using isHead
  exact notDigit

theorem Exponent.mark_notDigit (exponent : Exponent) : exponent.mark.isDigit = false := by
  rcases exponent.isMark with isMark | isMark <;> rw [isMark] <;> rfl

theorem Numeral.stopsDigits_exponent (numeral : Numeral) (ends : EndsNumber rest) :
    StopsDigits (numeral.exponentSpelling ++ rest) := by
  unfold exponentSpelling
  cases numeral.exponent with
  | none => exact ends.stopsDigits
  | some exponent => exact stopsDigits_cons exponent.mark_notDigit _

theorem Numeral.stopsDigits_fraction (numeral : Numeral) (ends : EndsNumber rest) :
    StopsDigits (numeral.fractionSpelling ++ (numeral.exponentSpelling ++ rest)) := by
  unfold fractionSpelling
  cases numeral.fraction with
  | none => exact numeral.stopsDigits_exponent ends
  | some digits => exact stopsDigits_cons rfl _

theorem skipDigits_passes (digits : Digits) (stops : StopsDigits rest) :
    Passes skipDigits digits.list rest := by
  intro start
  obtain ⟨stop, skipped⟩ := skipFrom_eq digits.areDigits stops start
  obtain ⟨first, later, parts⟩ := List.exists_cons_of_ne_nil digits.nonempty
  have digit : first.isDigit = true := digits.areDigits first (by simp [parts])
  refine ⟨stop, ?_⟩
  rw [parts, List.cons_append] at skipped ⊢
  simp only [skipDigits, digit, if_true, Cursor.skipWhile, skipped]

theorem skipExponent_of_mark {mark : Char} (isMark : mark = 'e' ∨ mark = 'E') (later : List Char)
    (start : Position) :
    skipExponent ⟨mark :: later, start⟩ =
      skipDigits (if later.head? = some '+' ∨ later.head? = some '-' then
          Cursor.next (Cursor.next ⟨mark :: later, start⟩)
        else Cursor.next ⟨mark :: later, start⟩) := by
  rcases isMark with rfl | rfl <;> rfl

theorem skipExponent_passes (exponent : Exponent) (stops : StopsDigits rest) :
    Passes skipExponent exponent.spelling rest := by
  intro start
  rw [Exponent.spelling, List.cons_append, skipExponent_of_mark exponent.isMark, List.append_assoc]
  have passes := skipDigits_passes exponent.digits stops
  have isSign := exponent.isSign
  cases sign : exponent.sign with
  | none =>
      obtain ⟨first, later, parts⟩ := List.exists_cons_of_ne_nil exponent.digits.nonempty
      have digit : first.isDigit = true := exponent.digits.areDigits first (by simp [parts])
      have notSign : ¬(first = '+' ∨ first = '-') :=
        not_or.mpr ⟨ne_of_isDigit digit (by decide), ne_of_isDigit digit (by decide)⟩
      obtain ⟨stop, passed⟩ := passes (start.after exponent.mark)
      refine ⟨stop, ?_⟩
      rw [← passed]
      simp [parts, notSign, Cursor.next]
  | some c =>
      rw [sign] at isSign
      obtain ⟨stop, passed⟩ := passes ((start.after exponent.mark).after c)
      refine ⟨stop, ?_⟩
      rw [← passed]
      simp [isSign c rfl, Cursor.next]

theorem skipExponent_ends (ends : EndsNumber rest) (start : Position) :
    skipExponent ⟨rest, start⟩ = .ok ⟨rest, start⟩ := by
  unfold skipExponent
  split
  case h_1 isSmall => exact absurd rfl (ends 'e' (by simp_all)).2.2.1
  case h_2 isLarge => exact absurd rfl (ends 'E' (by simp_all)).2.2.2
  case h_3 => rfl

theorem Numeral.skipExponent_passes (numeral : Numeral) (ends : EndsNumber rest) :
    Passes skipExponent numeral.exponentSpelling rest := by
  unfold exponentSpelling
  cases numeral.exponent with
  | none => exact fun start => ⟨start, skipExponent_ends ends start⟩
  | some exponent => exact Json.skipExponent_passes exponent ends.stopsDigits

def skipWhole (c : Cursor) : Except Fault Cursor :=
  match c.rest with
  | '0' :: later =>
      if later.head?.any Char.isDigit then throw (c.next.faultAhead .invalidNumber) else pure c.next
  | _ => skipDigits c

def skipFraction (c : Cursor) : Except Fault Cursor :=
  match c.rest with
  | '.' :: _ => do
      let c ← skipDigits c.next
      skipExponent c
  | _ => skipExponent c

theorem skipNumber_eq (c : Cursor) : skipNumber c = skipWhole c >>= skipFraction := by
  by_cases isZero : ∃ later, c.rest = '0' :: later
  · obtain ⟨later, begins⟩ := isZero
    simp only [skipNumber, skipWhole, begins]
    split <;> rfl
  · have whole : skipWhole c = skipDigits c := by
      unfold skipWhole
      split
      case h_1 later begins => exact absurd ⟨later, begins⟩ isZero
      case h_2 => rfl
    rw [whole]
    unfold skipNumber
    split
    case h_1 later begins => exact absurd ⟨later, begins⟩ isZero
    case h_2 => rfl

theorem Numeral.skipWhole_passes (numeral : Numeral) (stops : StopsDigits rest) :
    Passes skipWhole numeral.whole.list rest := by
  intro start
  obtain ⟨first, later, parts⟩ := List.exists_cons_of_ne_nil numeral.whole.nonempty
  by_cases isZero : first = '0'
  · rw [isZero] at parts
    rw [parts, numeral.noLeadingZero later parts]
    have noDigit : rest.head?.any Char.isDigit = false := by
      cases follower : rest.head? with
      | none => rfl
      | some c => simp [stops c follower]
    refine ⟨start.after '0', ?_⟩
    simp only [skipWhole, List.cons_append, List.nil_append, noDigit, Bool.false_eq_true, if_false]
    rfl
  · obtain ⟨stop, passed⟩ := skipDigits_passes numeral.whole stops start
    refine ⟨stop, ?_⟩
    rw [parts, List.cons_append] at passed ⊢
    rw [← passed]
    unfold skipWhole
    split
    case h_1 begins => exact absurd (List.cons.inj begins).1 isZero
    case h_2 => rfl

theorem Numeral.skipFraction_passes (numeral : Numeral) (ends : EndsNumber rest) :
    Passes skipFraction (numeral.fractionSpelling ++ numeral.exponentSpelling) rest := by
  intro start
  rw [List.append_assoc]
  cases isFraction : numeral.fraction with
  | none =>
      obtain ⟨stop, passed⟩ := numeral.skipExponent_passes ends start
      refine ⟨stop, ?_⟩
      rw [← passed]
      simp only [fractionSpelling, isFraction, Option.elim_none, List.nil_append]
      unfold skipFraction
      split
      case h_1 begins =>
        -- neither an exponent nor what follows the number begins with a point
        exfalso
        cases isExponent : numeral.exponent with
        | none =>
            simp only [exponentSpelling, isExponent, Option.elim_none, List.nil_append] at begins
            exact absurd rfl (ends '.' (by simp [begins])).2.1
        | some exponent =>
            simp only [exponentSpelling, isExponent, Option.elim_some, Exponent.spelling,
              List.cons_append] at begins
            have isPoint : exponent.mark = '.' := (List.cons.inj begins).1
            rcases exponent.isMark with isMark | isMark <;> rw [isMark] at isPoint <;>
              exact absurd isPoint (by decide)
      case h_2 => rfl
  | some digits =>
      obtain ⟨between, passedDigits⟩ :=
        skipDigits_passes digits (numeral.stopsDigits_exponent ends) (start.after '.')
      obtain ⟨stop, passed⟩ := numeral.skipExponent_passes ends between
      refine ⟨stop, ?_⟩
      rw [← passed]
      simp only [fractionSpelling, isFraction, Option.elim_some, List.cons_append, skipFraction,
        Cursor.next]
      rw [passedDigits]
      rfl

theorem Numeral.skipNumber_passes (numeral : Numeral) (ends : EndsNumber rest) :
    Passes skipNumber numeral.unsigned rest := by
  intro start
  obtain ⟨between, passedWhole⟩ :=
    numeral.skipWhole_passes (numeral.stopsDigits_fraction ends) start
  obtain ⟨stop, passed⟩ := numeral.skipFraction_passes ends between
  refine ⟨stop, ?_⟩
  rw [List.append_assoc] at passed
  rw [skipNumber_eq, unsigned, List.append_assoc, List.append_assoc, passedWhole]
  exact passed

end Numbers

/-! ## Values -/

def Tree.isScalar : Tree → Bool
  | list _ | object _ => false
  | null | bool _ | number _ | text _ => true

theorem skipScalar_digit {first : Char} (digit : first.isDigit = true) (later : List Char)
    (start : Position) :
    skipScalar ⟨first :: later, start⟩ = skipNumber ⟨first :: later, start⟩ := by
  have isNot : ∀ other : Char, other.isDigit = false → first ≠ other :=
    fun _ notDigit => ne_of_isDigit digit notDigit
  simp [skipScalar, digit, isNot]

theorem Spells.skipScalar_eq {tree : Tree} {text rest : List Char}
    (spells : Spells (.value tree) text rest) (scalar : tree.isScalar = true) (start : Position) :
    ∃ stop, skipScalar ⟨text, start⟩ = .ok ⟨rest, stop⟩ := by
  cases spells with
  | null =>
      obtain ⟨stop, passed⟩ := readLetters_passes ['u', 'l', 'l'] rest (start.after 'n')
      exact ⟨stop, passed⟩
  | isTrue =>
      obtain ⟨stop, passed⟩ := readLetters_passes ['r', 'u', 'e'] rest (start.after 't')
      exact ⟨stop, passed⟩
  | isFalse =>
      obtain ⟨stop, passed⟩ := readLetters_passes ['a', 'l', 's', 'e'] rest (start.after 'f')
      exact ⟨stop, passed⟩
  | number numeral ends =>
      unfold Numeral.spelling
      split
      case isTrue =>
        obtain ⟨stop, passed⟩ := numeral.skipNumber_passes ends (start.after '-')
        exact ⟨stop, passed⟩
      case isFalse =>
        obtain ⟨first, later, parts, digit⟩ := numeral.unsigned_cons
        obtain ⟨stop, passed⟩ := numeral.skipNumber_passes ends start
        refine ⟨stop, ?_⟩
        rw [parts, List.cons_append] at passed ⊢
        rw [skipScalar_digit digit, passed]
  | text pieces =>
      obtain ⟨stop, passed⟩ := skipQuoted_spelling pieces rest (start.after '"')
      refine ⟨stop, ?_⟩
      rw [List.append_assoc] at passed
      exact passed
  | list | object => cases scalar

theorem openingBracket?_eq_none {tree : Tree} {first : Char} (begins : tree.BeginsWith first)
    (scalar : tree.isScalar = true) (later : List Char) (start : Position) :
    openingBracket? ⟨first :: later, start⟩ = none := by
  have notBracket : first ≠ '[' ∧ first ≠ '{' := by
    cases tree with
    | number numeral =>
        exact ⟨ne_of_beginsNumber begins (by decide) rfl,
          ne_of_beginsNumber begins (by decide) rfl⟩
    | bool value => cases value <;> cases begins <;> decide
    | null | text => cases begins; decide
    | list | object => cases scalar
  simp [openingBracket?, notBracket]

def skipOpened (bracket : Bracket) (rounds : List Char) (stack : List Bracket) (c : Cursor) :
    Except Fault Cursor :=
  let c := c.skipBlanks
  match c.rest with
  | [] => throw (c.faultAhead bracket.endOfText)
  | first :: _ =>
      if first = bracket.closing then
        skipOpen rounds stack .afterItem c.next
      else do
        let c ← skipItemStart bracket c
        skipOpen rounds (bracket :: stack) .value c

def skipInside (bracket : Bracket) (isFirst : Bool) (rounds : List Char) (stack : List Bracket)
    (c : Cursor) : Except Fault Cursor :=
  if isFirst then skipOpened bracket rounds stack c
  else skipOpen rounds (bracket :: stack) .afterItem c

/-- Wherever the phrase is to be passed, what follows it is to be passed after that, and the rounds
still last. -/
def Skips : Phrase → List Char → List Char → Prop
  | .value _, text, rest => ∀ rounds stack start, text.length ≤ rounds.length →
      ∃ left stop, rest.length ≤ left.length ∧
        skipOpen rounds stack .value ⟨text, start⟩ = skipOpen left stack .afterItem ⟨rest, stop⟩
  | .items isFirst _, text, rest => ∀ rounds stack start, text.length ≤ rounds.length →
      ∃ left stop, rest.length ≤ left.length ∧
        skipInside .list isFirst rounds stack ⟨text, start⟩ =
          skipOpen left stack .afterItem ⟨rest, stop⟩
  | .members isFirst _, text, rest => ∀ rounds stack start, text.length ≤ rounds.length →
      ∃ left stop, rest.length ≤ left.length ∧
        skipInside .object isFirst rounds stack ⟨text, start⟩ =
          skipOpen left stack .afterItem ⟨rest, stop⟩

theorem skipOpen_scalar {first : Char} {later : List Char} {start : Position}
    (notBlank : isJsonBlank first = false)
    (scalar : openingBracket? ⟨first :: later, start⟩ = none) (round : Char) (rounds : List Char)
    (stack : List Bracket) :
    skipOpen (round :: rounds) stack .value ⟨first :: later, start⟩ =
      skipScalar ⟨first :: later, start⟩ >>= skipOpen rounds stack .afterItem := by
  simp only [skipOpen, skipBlanks_eq first notBlank, scalar]

theorem skipOpen_bracket {bracket : Bracket} {opening : Char} {text : List Char} {start : Position}
    (notBlank : isJsonBlank opening = false)
    (opens : openingBracket? ⟨opening :: text, start⟩ = some bracket) (round : Char)
    (rounds : List Char) (stack : List Bracket) :
    skipOpen (round :: rounds) stack .value ⟨opening :: text, start⟩ =
      skipInside bracket true rounds stack ⟨text, start.after opening⟩ := by
  simp only [skipOpen, skipBlanks_eq opening notBlank, opens]
  rfl

/-- Blanks in front of a value make no difference. -/
theorem skipOpen_blanks {text later : List Char} {first : Char}
    (blanks : Blanks text (first :: later)) (notBlank : isJsonBlank first = false)
    {rounds : List Char} (more : rounds ≠ []) (stack : List Bracket) (start : Position) :
    ∃ stop, skipOpen rounds stack .value ⟨text, start⟩ =
      skipOpen rounds stack .value ⟨first :: later, stop⟩ := by
  obtain ⟨stop, skipped⟩ := blanks.skips_to notBlank start
  obtain ⟨round, rounds, rfl⟩ := List.exists_cons_of_ne_nil more
  refine ⟨stop, ?_⟩
  simp only [skipOpen, skipped, skipBlanks_eq first notBlank]

theorem Bracket.closing_notBlank (bracket : Bracket) : isJsonBlank bracket.closing = false := by
  cases bracket <;> rfl

theorem skipInside_close (bracket : Bracket) (isFirst : Bool) {text rest : List Char}
    (blanks : Blanks text (bracket.closing :: rest)) {rounds : List Char}
    (enough : text.length ≤ rounds.length) (stack : List Bracket) (start : Position) :
    ∃ left stop, rest.length ≤ left.length ∧
      skipInside bracket isFirst rounds stack ⟨text, start⟩ =
        skipOpen left stack .afterItem ⟨rest, stop⟩ := by
  obtain ⟨stop, skipped⟩ := blanks.skips_to bracket.closing_notBlank start
  have shorter := blanks.length_le
  rw [List.length_cons] at shorter
  cases isFirst with
  | true =>
      refine ⟨rounds, stop.after bracket.closing, by omega, ?_⟩
      simp only [skipInside, if_true, skipOpened, skipped]
      rfl
  | false =>
      obtain ⟨round, rounds, rfl⟩ : ∃ round later, rounds = round :: later :=
        List.exists_cons_of_length_pos (by omega)
      refine ⟨rounds, stop.after bracket.closing, by simp at enough; omega, ?_⟩
      simp only [skipInside, Bool.false_eq_true, if_false, skipOpen, skipped, if_true]
      rfl

/-- What separates items is passed but for blanks, and the start of an item comes next. -/
theorem skipInside_more (bracket : Bracket) {isFirst : Bool} {text later : List Char} {first : Char}
    (separates : Separates isFirst text (first :: later)) (notBlank : isJsonBlank first = false)
    (notClosing : first ≠ bracket.closing) {rounds : List Char}
    (enough : text.length ≤ rounds.length) (stack : List Bracket) (start : Position) :
    ∃ left item stop, (first :: later).length ≤ left.length ∧ Blanks item (first :: later) ∧
      skipInside bracket isFirst rounds stack ⟨text, start⟩ =
        skipItemStart bracket ⟨item, stop⟩ >>= skipOpen left (bracket :: stack) .value := by
  cases isFirst with
  | true =>
      have blanks : Blanks text (first :: later) := separates
      have shorter := blanks.length_le
      obtain ⟨stop, skipped⟩ := blanks.skips_to notBlank start
      refine ⟨rounds, first :: later, stop, by omega, .none _, ?_⟩
      simp only [skipInside, if_true, skipOpened, skipped, if_neg notClosing]
  | false =>
      obtain ⟨behind, toComma, behindComma⟩ : ∃ behind, Blanks text (',' :: behind) ∧
        Blanks behind (first :: later) := separates
      have shorter := toComma.length_le
      have evenShorter := behindComma.length_le
      rw [List.length_cons] at shorter
      obtain ⟨stop, skipped⟩ := toComma.skips_to rfl start
      obtain ⟨round, rounds, rfl⟩ : ∃ round later, rounds = round :: later :=
        List.exists_cons_of_length_pos (by omega)
      have notComma : ',' ≠ bracket.closing := by cases bracket <;> decide
      rw [List.length_cons] at enough
      refine ⟨rounds, behind, stop.after ',', by omega, behindComma, ?_⟩
      simp only [skipInside, Bool.false_eq_true, if_false, skipOpen, skipped, if_neg notComma,
        if_true]
      rfl

theorem readColon_blanks {text rest : List Char} (blanks : Blanks text (':' :: rest))
    (start : Position) : ∃ stop, readColon ⟨text, start⟩ = .ok ⟨rest, stop⟩ := by
  obtain ⟨stop, skipped⟩ := blanks.skips_to rfl start
  refine ⟨stop.after ':', ?_⟩
  simp only [readColon, skipped]
  rfl

theorem skipName_eq {text named rest : List Char} {name : List Piece}
    (blanks : Blanks text ('"' :: (spelling name ++ '"' :: named)))
    (beforeColon : Blanks named (':' :: rest)) (start : Position) :
    ∃ stop, skipName ⟨text, start⟩ = .ok ⟨rest, stop⟩ := by
  obtain ⟨opened, skipped⟩ := blanks.skips_to rfl start
  obtain ⟨between, passed⟩ := skipQuoted_spelling name named (opened.after '"')
  obtain ⟨stop, passedColon⟩ := readColon_blanks beforeColon between
  refine ⟨stop, ?_⟩
  rw [List.append_assoc] at passed
  simp only [skipName, skipped, Cursor.next]
  rw [← passedColon]
  exact congrArg (· >>= readColon) passed

theorem Spells.skips {phrase : Phrase} {text rest : List Char} (spells : Spells phrase text rest) :
    Skips phrase text rest := by
  have scalar : ∀ {tree : Tree} {text rest : List Char}, Spells (.value tree) text rest →
      tree.isScalar = true → Skips (.value tree) text rest := by
    intro tree text rest spells scalar rounds stack start enough
    obtain ⟨stop, passed⟩ := spells.skipScalar_eq scalar start
    obtain ⟨first, later, rfl, begins⟩ := spells.begins
    obtain ⟨round, rounds, rfl⟩ : ∃ round later, rounds = round :: later :=
      List.exists_cons_of_length_pos (by simp at enough; omega)
    refine ⟨rounds, stop, ?_, ?_⟩
    · have shorter := spells.size_le
      simp only [Phrase.size, List.length_cons] at shorter enough
      omega
    · rw [skipOpen_scalar begins.notBlank (openingBracket?_eq_none begins scalar later start),
        passed]
      rfl
  induction spells with
  | null rest => exact scalar (.null rest) rfl
  | isTrue rest => exact scalar (.isTrue rest) rfl
  | isFalse rest => exact scalar (.isFalse rest) rfl
  | number numeral ends => exact scalar (.number numeral ends) rfl
  | text pieces rest => exact scalar (.text pieces rest) rfl
  | list inside inductionHypothesis =>
      intro rounds stack start enough
      obtain ⟨round, rounds, rfl⟩ : ∃ round later, rounds = round :: later :=
        List.exists_cons_of_length_pos (by simp at enough; omega)
      obtain ⟨left, stop, lasts, skipped⟩ :=
        inductionHypothesis rounds stack (start.after '[') (by simpa using enough)
      exact ⟨left, stop, lasts, by rw [skipOpen_bracket rfl rfl, skipped]⟩
  | object inside inductionHypothesis =>
      intro rounds stack start enough
      obtain ⟨round, rounds, rfl⟩ : ∃ round later, rounds = round :: later :=
        List.exists_cons_of_length_pos (by simp at enough; omega)
      obtain ⟨left, stop, lasts, skipped⟩ :=
        inductionHypothesis rounds stack (start.after '{') (by simpa using enough)
      exact ⟨left, stop, lasts, by rw [skipOpen_bracket rfl rfl, skipped]⟩
  | endList isFirst blanks =>
      intro rounds stack start enough
      exact skipInside_close .list isFirst blanks enough stack start
  | endObject isFirst blanks =>
      intro rounds stack start enough
      exact skipInside_close .object isFirst blanks enough stack start
  | item separates first later firstHypothesis laterHypothesis =>
      intro rounds stack start enough
      obtain ⟨opening, inner, rfl, begins⟩ := first.begins
      obtain ⟨left, item, stop, lasts, blanks, moved⟩ :=
        skipInside_more .list separates begins.notBlank begins.notMark.2.1 enough stack start
      have more : left ≠ [] := List.ne_nil_of_length_pos (Nat.lt_of_lt_of_le (by simp) lasts)
      obtain ⟨valueStart, atValue⟩ :=
        skipOpen_blanks blanks begins.notBlank more (.list :: stack) stop
      obtain ⟨between, stop, lasts, passed⟩ :=
        firstHypothesis left (.list :: stack) valueStart lasts
      obtain ⟨left, stop, lasts, skipped⟩ := laterHypothesis between stack stop lasts
      refine ⟨left, stop, lasts, ?_⟩
      rw [moved, ← skipped]
      exact atValue.trans passed
  | member name separates beforeColon behindColon first later firstHypothesis laterHypothesis =>
      intro rounds stack start enough
      obtain ⟨opening, inner, rfl, begins⟩ := first.begins
      obtain ⟨left, item, stop, lasts, blanks, moved⟩ :=
        skipInside_more .object separates rfl (by decide) enough stack start
      obtain ⟨behindName, passedName⟩ := skipName_eq blanks beforeColon stop
      have shorter := beforeColon.length_le
      have evenShorter := behindColon.length_le
      simp only [List.length_cons, List.length_append] at lasts shorter
      have enoughLeft : (opening :: inner).length ≤ left.length := by omega
      have more : left ≠ [] := List.ne_nil_of_length_pos (Nat.lt_of_lt_of_le (by simp) enoughLeft)
      obtain ⟨valueStart, atValue⟩ :=
        skipOpen_blanks behindColon begins.notBlank more (.object :: stack) behindName
      obtain ⟨between, stop, lasts, passed⟩ :=
        firstHypothesis left (.object :: stack) valueStart enoughLeft
      obtain ⟨left, stop, lasts, skipped⟩ := laterHypothesis between stack stop lasts
      refine ⟨left, stop, lasts, ?_⟩
      rw [moved, ← skipped, skipItemStart, passedName]
      exact atValue.trans passed

/-- Every text of a value is passed. -/
theorem skipValue_passes {tree : Tree} {text value rest : List Char} (blanks : Blanks text value)
    (spells : Spells (.value tree) value rest) (start : Position) :
    ∃ stop, skipValue ⟨text, start⟩ = .ok ⟨rest, stop⟩ := by
  obtain ⟨first, later, rfl, begins⟩ := spells.begins
  have shorter := blanks.length_le
  have more : text ≠ [] := List.ne_nil_of_length_pos (Nat.lt_of_lt_of_le (by simp) shorter)
  obtain ⟨valueStart, atValue⟩ := skipOpen_blanks blanks begins.notBlank more [] start
  obtain ⟨left, stop, _, skipped⟩ := spells.skips text [] valueStart shorter
  refine ⟨stop, ?_⟩
  rw [skipValue, atValue, skipped, skipOpen]

end CodeGraph.Json
