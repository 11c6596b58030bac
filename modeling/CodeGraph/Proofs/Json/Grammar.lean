import CodeGraph.Proofs.Json.RoundTrip

/-!
# The texts of JSON values

A tree is a value as a text has it: numbers keep their digits, and the members of an object stand in
the order of the text, each as often as it is there.  `Spells` is the grammar.  It relates a phrase
to a text that begins with it and to what follows, with blanks wherever they may stand and
characters escaped in every way.  A surrogate may stand alone in a string, which then has no
content.
-/

set_option autoImplicit false

namespace CodeGraph.Json

/-! ## Strings -/

def isUnescaped (c : Char) : Bool :=
  c ≠ '"' && c ≠ '\\' && 0x20 ≤ c.toNat

theorem isUnescaped_iff {c : Char} :
    isUnescaped c = true ↔ c ≠ '"' ∧ c ≠ '\\' ∧ 0x20 ≤ c.toNat := by
  simp [isUnescaped, and_assoc]

/-- What stands for a character, or for half of one, within a string. -/
inductive Piece where
  | plain (c : Char) (unescaped : isUnescaped c = true)
  | short (letter c : Char) (stands : shortEscape? letter = some c)
  | unit (digits : Char × Char × Char × Char) (value : Nat)
      (stands : fourHex? digits.1 digits.2.1 digits.2.2.1 digits.2.2.2 = some value)

def Piece.spelling : Piece → List Char
  | plain c _ => [c]
  | short letter _ _ => ['\\', letter]
  | unit (first, second, third, fourth) _ _ => ['\\', 'u', first, second, third, fourth]

def spelling (pieces : List Piece) : List Char :=
  pieces.flatMap Piece.spelling

def pairedChar (high low : Nat) : Char :=
  Char.ofNat ((high - 0xd800) * 0x400 + (low - 0xdc00) + 0x10000)

def characters? : List Piece → Option (List Char)
  | [] => some []
  | .plain c _ :: later | .short _ c _ :: later => (characters? later).map (c :: ·)
  | .unit _ value _ :: later =>
      if isLowSurrogate value then none
      else if isHighSurrogate value then
        match later with
        | .unit _ low _ :: later =>
            if isLowSurrogate low then (characters? later).map (pairedChar value low :: ·) else none
        | _ => none
      else (characters? later).map (Char.ofNat value :: ·)

def content? (pieces : List Piece) : Option String :=
  (characters? pieces).map .ofList

/-! ## Numbers -/

structure Digits where
  list : List Char
  areDigits : ∀ c ∈ list, c.isDigit = true
  nonempty : list ≠ []

structure Exponent where
  mark : Char
  isMark : mark = 'e' ∨ mark = 'E'
  sign : Option Char
  isSign : ∀ c ∈ sign, c = '+' ∨ c = '-'
  digits : Digits

structure Numeral where
  negative : Bool
  whole : Digits
  noLeadingZero : ∀ later, whole.list = '0' :: later → later = []
  fraction : Option Digits
  exponent : Option Exponent

def Exponent.spelling (exponent : Exponent) : List Char :=
  exponent.mark :: (exponent.sign.toList ++ exponent.digits.list)

namespace Numeral

def fractionSpelling (numeral : Numeral) : List Char :=
  numeral.fraction.elim [] fun digits => '.' :: digits.list

def exponentSpelling (numeral : Numeral) : List Char :=
  numeral.exponent.elim [] Exponent.spelling

def unsigned (numeral : Numeral) : List Char :=
  numeral.whole.list ++ (numeral.fractionSpelling ++ numeral.exponentSpelling)

def spelling (numeral : Numeral) : List Char :=
  if numeral.negative then '-' :: numeral.unsigned else numeral.unsigned

def magnitude (numeral : Numeral) : Nat :=
  Nat.ofDigitChars 10 numeral.whole.list 0

structure IsWhole (numeral : Numeral) (bound : Nat) : Prop where
  noFraction : numeral.fraction = none
  noExponent : numeral.exponent = none
  less : numeral.magnitude < bound

theorem isWhole_iff {numeral : Numeral} {bound : Nat} :
    numeral.IsWhole bound ↔
      numeral.fraction.isNone ∧ numeral.exponent.isNone ∧ numeral.magnitude < bound := by
  rw [Option.isNone_iff_eq_none, Option.isNone_iff_eq_none]
  exact ⟨fun ⟨noFraction, noExponent, less⟩ => ⟨noFraction, noExponent, less⟩,
    fun ⟨noFraction, noExponent, less⟩ => ⟨noFraction, noExponent, less⟩⟩

instance (numeral : Numeral) (bound : Nat) : Decidable (numeral.IsWhole bound) :=
  decidable_of_iff' _ isWhole_iff

/-- It is written as a whole number from zero to less than a bound. -/
def IsBelow (numeral : Numeral) (bound : Nat) : Prop :=
  numeral.negative = false ∧ numeral.IsWhole bound

instance (numeral : Numeral) (bound : Nat) : Decidable (numeral.IsBelow bound) :=
  inferInstanceAs (Decidable (_ ∧ _))

end Numeral

/-! ## Values -/

/-- A JSON value as a text has it.  A string without content has a surrogate that stands alone. -/
inductive Tree where
  | null
  | bool (value : Bool)
  | number (numeral : Numeral)
  | text (content : Option String)
  | list (items : List Tree)
  | object (members : List (Option String × Tree))

inductive Blanks : List Char → List Char → Prop where
  | none (rest : List Char) : Blanks rest rest
  | cons {c : Char} {text rest : List Char} (blank : isJsonBlank c = true)
      (later : Blanks text rest) : Blanks (c :: text) rest

/-- What stands before an item: blanks, and a comma among them unless the item is the first. -/
def Separates (isFirst : Bool) (text rest : List Char) : Prop :=
  if isFirst then Blanks text rest
  else ∃ behind, Blanks text (',' :: behind) ∧ Blanks behind rest

/-- A value, or what stands behind the opening bracket or behind an item of a list or an object up
to the closing bracket. -/
inductive Phrase where
  | value (tree : Tree)
  | items (isFirst : Bool) (items : List Tree)
  | members (isFirst : Bool) (members : List (Option String × Tree))

/-- The text begins with the phrase and goes on with the rest.  A number goes on as long as it can,
so that what follows it in a text of JSON never belongs to it. -/
inductive Spells : Phrase → List Char → List Char → Prop where
  | null (rest : List Char) : Spells (.value .null) ('n' :: 'u' :: 'l' :: 'l' :: rest) rest
  | isTrue (rest : List Char) : Spells (.value (.bool true)) ('t' :: 'r' :: 'u' :: 'e' :: rest) rest
  | isFalse (rest : List Char) :
      Spells (.value (.bool false)) ('f' :: 'a' :: 'l' :: 's' :: 'e' :: rest) rest
  | number (numeral : Numeral) {rest : List Char} (ends : EndsNumber rest) :
      Spells (.value (.number numeral)) (numeral.spelling ++ rest) rest
  | text (pieces : List Piece) (rest : List Char) :
      Spells (.value (.text (content? pieces))) ('"' :: (spelling pieces ++ '"' :: rest)) rest
  | list {items : List Tree} {text rest : List Char}
      (inside : Spells (.items true items) text rest) :
      Spells (.value (.list items)) ('[' :: text) rest
  | object {members : List (Option String × Tree)} {text rest : List Char}
      (inside : Spells (.members true members) text rest) :
      Spells (.value (.object members)) ('{' :: text) rest
  | endList (isFirst : Bool) {text rest : List Char} (blanks : Blanks text (']' :: rest)) :
      Spells (.items isFirst []) text rest
  | item {isFirst : Bool} {item : Tree} {items : List Tree} {text value behind rest : List Char}
      (separates : Separates isFirst text value) (first : Spells (.value item) value behind)
      (later : Spells (.items false items) behind rest) :
      Spells (.items isFirst (item :: items)) text rest
  | endObject (isFirst : Bool) {text rest : List Char} (blanks : Blanks text ('}' :: rest)) :
      Spells (.members isFirst []) text rest
  | member {isFirst : Bool} (name : List Piece) {item : Tree}
      {members : List (Option String × Tree)} {text named colon value behind rest : List Char}
      (separates : Separates isFirst text ('"' :: (spelling name ++ '"' :: named)))
      (beforeColon : Blanks named (':' :: colon)) (behindColon : Blanks colon value)
      (first : Spells (.value item) value behind)
      (later : Spells (.members false members) behind rest) :
      Spells (.members isFirst ((content? name, item) :: members)) text rest

def Tree.IsText (tree : Tree) (text : List Char) : Prop :=
  ∃ value behind, Blanks text value ∧ Spells (.value tree) value behind ∧ Blanks behind []

/-! ## Blanks -/

theorem Blanks.skips {text rest : List Char} (blanks : Blanks text rest)
    (stops : ∀ c ∈ rest.head?, isJsonBlank c = false) (start : Position) :
    ∃ stop, Cursor.skipBlanks ⟨text, start⟩ = ⟨rest, stop⟩ := by
  induction blanks generalizing start with
  | none rest =>
      cases rest with
      | nil => exact ⟨start, rfl⟩
      | cons first later =>
          refine ⟨start, ?_⟩
          simp [Cursor.skipBlanks, Cursor.skipWhile, Cursor.skipFrom, stops first (by simp)]
  | @cons c text rest blank later inductionHypothesis =>
      obtain ⟨stop, skipped⟩ := inductionHypothesis stops (start.after c)
      refine ⟨stop, ?_⟩
      simp only [Cursor.skipBlanks, Cursor.skipWhile, Cursor.skipFrom, blank, if_true] at skipped ⊢
      exact skipped

/-- Blanks in front of a character that is none are passed. -/
theorem Blanks.skips_to {text later : List Char} {first : Char}
    (blanks : Blanks text (first :: later)) (notBlank : isJsonBlank first = false)
    (start : Position) : ∃ stop, Cursor.skipBlanks ⟨text, start⟩ = ⟨first :: later, stop⟩ :=
  blanks.skips (by simpa using notBlank) start

theorem Blanks.length_le {text rest : List Char} (blanks : Blanks text rest) :
    rest.length ≤ text.length := by
  induction blanks with
  | none => exact Nat.le_refl _
  | cons blank later inductionHypothesis => exact Nat.le_succ_of_le inductionHypothesis

/-! ## The front of a value -/

def Tree.BeginsWith : Tree → Char → Prop
  | null, c => c = 'n'
  | bool true, c => c = 't'
  | bool false, c => c = 'f'
  | number _, c => c = '-' ∨ c.isDigit = true
  | text _, c => c = '"'
  | list _, c => c = '['
  | object _, c => c = '{'

theorem Numeral.unsigned_cons (numeral : Numeral) :
    ∃ first later, numeral.unsigned = first :: later ∧ first.isDigit = true := by
  obtain ⟨first, later, digits⟩ := List.exists_cons_of_ne_nil numeral.whole.nonempty
  refine ⟨first, later ++ (numeral.fractionSpelling ++ numeral.exponentSpelling), ?_, ?_⟩
  · rw [unsigned, digits, List.cons_append]
  · exact numeral.whole.areDigits first (by simp [digits])

theorem Numeral.spelling_cons (numeral : Numeral) :
    ∃ first later, numeral.spelling = first :: later ∧ (first = '-' ∨ first.isDigit = true) := by
  unfold spelling
  split
  case isTrue => exact ⟨'-', _, rfl, Or.inl rfl⟩
  case isFalse =>
    obtain ⟨first, later, parts, digit⟩ := numeral.unsigned_cons
    exact ⟨first, later, parts, Or.inr digit⟩

theorem Spells.begins {tree : Tree} {text rest : List Char}
    (spells : Spells (.value tree) text rest) :
    ∃ first later, text = first :: later ∧ tree.BeginsWith first := by
  cases spells with
  | null => exact ⟨'n', _, rfl, rfl⟩
  | isTrue => exact ⟨'t', _, rfl, rfl⟩
  | isFalse => exact ⟨'f', _, rfl, rfl⟩
  | number numeral ends =>
      obtain ⟨first, later, parts, begins⟩ := numeral.spelling_cons
      exact ⟨first, later ++ rest, by rw [parts, List.cons_append], begins⟩
  | text => exact ⟨'"', _, rfl, rfl⟩
  | list => exact ⟨'[', _, rfl, rfl⟩
  | object => exact ⟨'{', _, rfl, rfl⟩

theorem notBlank_of_beginsNumber {first : Char} (begins : first = '-' ∨ first.isDigit = true) :
    isJsonBlank first = false := by
  rcases begins with rfl | digit
  · rfl
  · exact (isScalarStart_iff.mp (isScalarStart_of_isDigit digit)).1

theorem ne_of_beginsNumber {first other : Char} (begins : first = '-' ∨ first.isDigit = true)
    (notSign : other ≠ '-') (notDigit : other.isDigit = false) : first ≠ other := by
  rcases begins with rfl | digit
  · exact notSign.symm
  · exact ne_of_isDigit digit notDigit

namespace Tree.BeginsWith

variable {tree : Tree} {c : Char}

theorem notBlank (begins : tree.BeginsWith c) : isJsonBlank c = false := by
  cases tree with
  | number numeral => exact notBlank_of_beginsNumber begins
  | bool value => cases value <;> cases begins <;> rfl
  | null | text | list | object => cases begins; rfl

theorem notMark (begins : tree.BeginsWith c) : c ≠ ',' ∧ c ≠ ']' ∧ c ≠ '}' := by
  cases tree with
  | number numeral =>
      exact ⟨ne_of_beginsNumber begins (by decide) rfl, ne_of_beginsNumber begins (by decide) rfl,
        ne_of_beginsNumber begins (by decide) rfl⟩
  | bool value => cases value <;> cases begins <;> decide
  | null | text | list | object => cases begins; decide

end Tree.BeginsWith

def Phrase.size : Phrase → Nat
  | .value _ => 1
  | .items _ trees => trees.length + 1
  | .members _ entries => entries.length + 1

theorem Separates.length_le {isFirst : Bool} {text rest : List Char}
    (separates : Separates isFirst text rest) : rest.length ≤ text.length := by
  cases isFirst with
  | true => exact Blanks.length_le separates
  | false =>
      obtain ⟨behind, toComma, behindComma⟩ := separates
      have shorter := toComma.length_le
      have evenShorter := behindComma.length_le
      rw [List.length_cons] at shorter
      omega

theorem Spells.size_le {phrase : Phrase} {text rest : List Char}
    (spells : Spells phrase text rest) : phrase.size + rest.length ≤ text.length := by
  induction spells with
  | null | isTrue | isFalse => simp [Phrase.size]; omega
  | number numeral =>
      obtain ⟨first, later, parts, _⟩ := numeral.spelling_cons
      simp [Phrase.size, parts]; omega
  | text => simp [Phrase.size]; omega
  | list inside inductionHypothesis | object inside inductionHypothesis =>
      simp only [Phrase.size, List.length_cons] at inductionHypothesis ⊢
      omega
  | endList isFirst blanks | endObject isFirst blanks =>
      have shorter := blanks.length_le
      simp only [Phrase.size, List.length_cons, List.length_nil] at shorter ⊢
      omega
  | item separates first later firstHypothesis laterHypothesis =>
      have shorter := separates.length_le
      simp only [Phrase.size, List.length_cons] at firstHypothesis laterHypothesis ⊢
      omega
  | member name separates beforeColon behindColon first later firstHypothesis laterHypothesis =>
      have shorter := separates.length_le
      have evenShorter := beforeColon.length_le
      have shortest := behindColon.length_le
      simp only [Phrase.size, List.length_cons, List.length_append] at *
      omega

end CodeGraph.Json
