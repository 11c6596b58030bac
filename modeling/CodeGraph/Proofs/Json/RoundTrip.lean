import CodeGraph.Proofs.Json.Scalars
import CodeGraph.Proofs.KeyMap

/-!
# Values are read back

The compact text of a value gives back the value, `parse_compact`, if the value is plain: its
numbers are whole ones of 64 bits, the members of its objects are in order, and it does not nest too
deep.  Lists and objects are read by one lemma each, for items of any type.
-/

set_option autoImplicit false

namespace CodeGraph.Json

/-! ## Between values -/

/-- A text that begins an item of a list: neither a blank nor a closing bracket stands in front. -/
def Opens (text : List Char) : Prop :=
  ∃ first later, text = first :: later ∧ isJsonBlank first = false ∧ first ≠ ']'

theorem Opens.ne_nil {text : List Char} (opens : Opens text) : text ≠ [] := by
  obtain ⟨first, later, rfl, _⟩ := opens
  exact List.cons_ne_nil first later

def separated : Bool → List (List Char) → List Char
  | _, [] => []
  | true, first :: later => first ++ separated false later
  | false, first :: later => ',' :: (first ++ separated false later)

theorem skipBlanks_eq (first : Char) (notBlank : isJsonBlank first = false) (later : List Char)
    (start : Position) : Cursor.skipBlanks ⟨first :: later, start⟩ = ⟨first :: later, start⟩ := by
  simp [Cursor.skipBlanks, Cursor.skipWhile, Cursor.skipFrom, notBlank]

theorem endsNumber_cons {first : Char} {later : List Char}
    (mark : first = ',' ∨ first = ']' ∨ first = '}') : EndsNumber (first :: later) := by
  intro c isHead
  obtain rfl : first = c := by simpa using isHead
  rcases mark with rfl | rfl | rfl <;> decide

theorem endsNumber_separated (texts : List (List Char)) {bracket : Char}
    (closes : bracket = ']' ∨ bracket = '}') (rest : List Char) :
    EndsNumber (separated false texts ++ bracket :: rest) := by
  cases texts with
  | nil => exact endsNumber_cons (Or.inr closes)
  | cons => exact endsNumber_cons (Or.inl rfl)

theorem length_le_separated (isFirst : Bool) {texts : List (List Char)}
    (nonempty : ∀ text ∈ texts, text ≠ []) : texts.length ≤ (separated isFirst texts).length := by
  induction texts generalizing isFirst with
  | nil => simp
  | cons first later inductionHypothesis =>
      have laterBound :=
        inductionHypothesis false fun text member => nonempty text (by simp [member])
      have positive := List.length_pos_iff.mpr (nonempty first (by simp))
      cases isFirst <;> simp only [separated, List.length_cons, List.length_append] <;> omega

/-! ## Lists -/

theorem nextItem_close (isFirst : Bool) (rest : List Char) (start : Position) :
    nextItem isFirst ⟨']' :: rest, start⟩ = .ok (false, ⟨']' :: rest, start⟩) := by
  simp only [nextItem, skipBlanks_eq ']' rfl]

theorem nextItem_first {text : List Char} (opens : Opens text) (rest : List Char)
    (start : Position) :
    nextItem true ⟨text ++ rest, start⟩ = .ok (true, ⟨text ++ rest, start⟩) := by
  obtain ⟨first, later, rfl, notBlank, notBracket⟩ := opens
  simp only [List.cons_append, nextItem, skipBlanks_eq _ notBlank, if_true]

theorem nextItem_comma {text : List Char} (opens : Opens text) (rest : List Char)
    (start : Position) :
    nextItem false ⟨',' :: (text ++ rest), start⟩ =
      .ok (true, ⟨text ++ rest, start.after ','⟩) := by
  obtain ⟨first, later, rfl, notBlank, notBracket⟩ := opens
  have behind : Cursor.next ⟨',' :: first :: (later ++ rest), start⟩ =
      ⟨first :: (later ++ rest), start.after ','⟩ := rfl
  simp only [nextItem, List.cons_append, skipBlanks_eq ',' rfl, behind,
    skipBlanks_eq _ notBlank, Bool.false_eq_true, if_false]
  split
  case h_1 ends => cases ends
  case h_2 closes => cases closes
  case h_3 isComma =>
    cases isComma
    rw [if_pos rfl]
    split
    case h_1 ends => cases ends
    case h_2 closes => exact absurd (List.cons.inj closes).1 notBracket
    case h_3 => rfl

theorem readItems_takes {α β : Type} {item : Reader β} {text : α → List Char} {content : α → β}
    {items : List α} (opens : ∀ one ∈ items, Opens (text one))
    (takes : ∀ one ∈ items, ∀ rest, EndsNumber rest → Takes item (text one) (content one) rest)
    {rounds : List Char} (enough : items.length < rounds.length) (isFirst : Bool)
    (rest : List Char) :
    Takes (readItems item rounds isFirst) (separated isFirst (items.map text)) (items.map content)
      (']' :: rest) := by
  induction items generalizing rounds isFirst with
  | nil =>
      intro start
      cases rounds with
      | nil => simp at enough
      | cons round rounds =>
          refine ⟨start, ?_⟩
          simp only [List.map_nil, separated, List.nil_append, readItems, nextItem_close, bind,
            Except.bind]
          rfl
  | cons first later inductionHypothesis =>
      intro start
      cases rounds with
      | nil => simp at enough
      | cons round rounds =>
          have firstOpens := opens first (by simp)
          let behind := separated false (later.map text) ++ ']' :: rest
          obtain ⟨opened, moved⟩ : ∃ opened, nextItem isFirst
              ⟨separated isFirst ((first :: later).map text) ++ ']' :: rest, start⟩ =
              .ok (true, ⟨text first ++ behind, opened⟩) := by
            cases isFirst with
            | true =>
                have moved := nextItem_first firstOpens behind start
                exact ⟨start, by simpa [separated, behind] using moved⟩
            | false =>
                have moved := nextItem_comma firstOpens behind start
                exact ⟨start.after ',', by simpa [separated, behind] using moved⟩
          -- a comma or the closing bracket follows, so that a number ends there
          obtain ⟨between, firstTaken⟩ := takes first (by simp) _
            (endsNumber_separated (later.map text) (Or.inl rfl) rest) opened
          obtain ⟨stop, laterTaken⟩ := inductionHypothesis
            (fun one member => opens one (by simp [member]))
            (fun one member => takes one (by simp [member])) (by simpa using enough) false between
          refine ⟨stop, ?_⟩
          simp only [readItems, moved, bind, Except.bind, if_true, behind, firstTaken, laterTaken]
          rfl

/-- The text itself counts enough rounds. -/
theorem length_lt_rounds {α : Type} {text : α → List Char} {items : List α}
    (nonempty : ∀ one ∈ items, text one ≠ []) (closing : Char) (rest : List Char) :
    items.length < (separated true (items.map text) ++ closing :: rest).length := by
  have bound := length_le_separated true (List.forall_mem_map.mpr nonempty)
  rw [List.length_map] at bound
  rw [List.length_append, List.length_cons]
  omega

theorem closeList_eq (rest : List Char) (start : Position) :
    closeList ⟨']' :: rest, start⟩ = .ok ⟨rest, start.after ']'⟩ := by
  simp only [closeList, skipBlanks_eq ']' rfl]
  rfl

/-! ## Objects -/

theorem nextName_close (isFirst : Bool) (rest : List Char) (start : Position) :
    nextName isFirst ⟨'}' :: rest, start⟩ = .ok (false, ⟨'}' :: rest, start⟩) := by
  simp only [nextName, skipBlanks_eq '}' rfl]

theorem nextName_more (isFirst : Bool) (rest : List Char) (start : Position) :
    ∃ stop, nextName isFirst ⟨(if isFirst then ['"'] else [',', '"']) ++ rest, start⟩ =
      .ok (true, ⟨rest, stop⟩) := by
  cases isFirst with
  | true => exact ⟨start.after '"', rfl⟩
  | false => exact ⟨(start.after ',').after '"', rfl⟩

theorem readColon_passes (rest : List Char) : Passes readColon [':'] rest :=
  fun start => ⟨start.after ':', rfl⟩

def readBehindColon {α σ : Type} (reader : Reader α) (into : α → σ) : Reader σ := fun cursor => do
  let cursor ← readColon cursor
  let (value, cursor) ← reader cursor
  return (into value, cursor)

theorem readBehindColon_takes {α σ : Type} {reader : Reader α} {text rest : List Char} {value : α}
    (takes : Takes reader text value rest) (into : α → σ) :
    Takes (readBehindColon reader into) (':' :: text) (into value) rest := by
  intro start
  obtain ⟨between, passed⟩ := readColon_passes (text ++ rest) start
  obtain ⟨stop, taken⟩ := takes between
  refine ⟨stop, ?_⟩
  rw [List.singleton_append] at passed
  simp only [readBehindColon, List.cons_append, passed, bind, Except.bind, taken]
  rfl

def memberText {α : Type} (text : α → List Char) (entry : String × α) : List Char :=
  quote entry.1 ++ ':' :: text entry.2

theorem memberText_ne_nil {α : Type} (text : α → List Char) (entry : String × α) :
    memberText text entry ≠ [] := by
  simp [memberText, quote_eq]

/-- Members that are read one by one, each into the state that those before it lead to, are read as
an object. -/
theorem readMembers_takes {α σ : Type} {member : σ → String → Reader σ} {text : α → List Char}
    {step : σ → String × α → σ} {entries : List (String × α)} {state : σ}
    (takes : ∀ before entry after, entries = before ++ entry :: after → ∀ rest, EndsNumber rest →
      Takes (member (before.foldl step state) entry.1) (':' :: text entry.2)
        (step (before.foldl step state) entry) rest)
    {rounds : List Char} (enough : entries.length < rounds.length) (isFirst : Bool)
    (rest : List Char) :
    Takes (readMembers member rounds isFirst state)
      (separated isFirst (entries.map (memberText text))) (entries.foldl step state)
      ('}' :: rest) := by
  induction entries generalizing rounds isFirst state with
  | nil =>
      intro start
      cases rounds with
      | nil => simp at enough
      | cons round rounds =>
          refine ⟨start, ?_⟩
          simp only [List.map_nil, separated, List.nil_append, readMembers, nextName_close, bind,
            Except.bind]
          rfl
  | cons first later inductionHypothesis =>
      intro start
      cases rounds with
      | nil => simp at enough
      | cons round rounds =>
          let behind := separated false (later.map (memberText text)) ++ '}' :: rest
          have ends : EndsNumber behind := endsNumber_separated _ (Or.inr rfl) rest
          have parts : separated isFirst ((first :: later).map (memberText text)) ++ '}' :: rest =
              (if isFirst then ['"'] else [',', '"'])
                ++ (quoteTail first.1 ++ (':' :: text first.2 ++ behind)) := by
            cases isFirst <;> simp [separated, memberText, quote_eq, behind]
          obtain ⟨opened, moved⟩ :=
            nextName_more isFirst (quoteTail first.1 ++ (':' :: text first.2 ++ behind)) start
          obtain ⟨named, nameTaken⟩ :=
            readQuoted_takes first.1 (':' :: text first.2 ++ behind) opened
          obtain ⟨between, firstTaken⟩ := takes [] first later rfl behind ends named
          have laterTakes : ∀ before entry after, later = before ++ entry :: after →
              ∀ rest, EndsNumber rest →
                Takes (member (before.foldl step (step state first)) entry.1)
                  (':' :: text entry.2) (step (before.foldl step (step state first)) entry) rest :=
            fun before entry after parts =>
              takes (first :: before) entry after (congrArg (first :: ·) parts)
          obtain ⟨stop, laterTaken⟩ :=
            inductionHypothesis laterTakes (by simpa using enough) false between
          refine ⟨stop, ?_⟩
          rw [List.foldl_nil] at firstTaken
          simp only [parts, readMembers, moved, bind, Except.bind, if_true, nameTaken, firstTaken]
          exact laterTaken

/-! ## Scalars -/

/-- Whether a character can begin a scalar: it is no blank and no bracket. -/
def isScalarStart (c : Char) : Bool :=
  !(isJsonBlank c || c = '[' || c = ']' || c = '{')

theorem isScalarStart_iff {c : Char} :
    isScalarStart c = true ↔ isJsonBlank c = false ∧ c ≠ '[' ∧ c ≠ ']' ∧ c ≠ '{' := by
  simp [isScalarStart, and_assoc]

theorem ne_of_isDigit {c other : Char} (digit : c.isDigit = true)
    (notDigit : other.isDigit = false) : c ≠ other := by
  rintro rfl
  exact absurd digit (by simp [notDigit])

theorem isScalarStart_of_isDigit {c : Char} (digit : c.isDigit = true) :
    isScalarStart c = true := by
  have isNot : ∀ other : Char, other.isDigit = false → c ≠ other :=
    fun _ notDigit => ne_of_isDigit digit notDigit
  simp [isScalarStart, isJsonBlank, isNot]

def OpensScalar (text : List Char) : Prop :=
  ∃ first later, text = first :: later ∧ isScalarStart first = true

theorem wholeText_cons (value : Int) :
    ∃ first later, wholeText value = first :: later ∧ (first = '-' ∨ first.isDigit = true) := by
  unfold wholeText
  split
  case isTrue => exact ⟨'-', _, rfl, Or.inl rfl⟩
  case isFalse =>
    obtain ⟨first, later, digits⟩ :=
      List.exists_cons_of_ne_nil (Nat.toDigits_ne_nil (n := value.natAbs) (b := 10))
    have digit : first.isDigit = true :=
      Nat.isDigit_of_mem_toDigits (b := 10) (n := value.natAbs) (by omega) (by omega)
        (by simp [digits])
    exact ⟨first, later, digits, Or.inr digit⟩

theorem opensScalar_wholeText (value : Int) : OpensScalar (wholeText value) := by
  obtain ⟨first, later, parts, isSign | digit⟩ := wholeText_cons value
  · exact ⟨first, later, parts, by rw [isSign]; decide⟩
  · exact ⟨first, later, parts, isScalarStart_of_isDigit digit⟩

theorem readValue_scalar {first : Char} (scalar : isScalarStart first = true) (depth : Nat)
    (later : List Char) (start : Position) :
    readValue depth ⟨first :: later, start⟩ = readScalar ⟨first :: later, start⟩ := by
  obtain ⟨notBlank, notList, _, notObject⟩ := isScalarStart_iff.mp scalar
  cases depth with
  | zero =>
      simp only [readValue, skipBlanks_eq _ notBlank]
      split
      case h_1 opens => exact absurd (List.cons.inj opens).1 notList
      case h_2 opens => exact absurd (List.cons.inj opens).1 notObject
      case h_3 => rfl
  | succ depth =>
      simp only [readValue, skipBlanks_eq _ notBlank]
      split
      case h_1 opens => exact absurd (List.cons.inj opens).1 notList
      case h_2 opens => exact absurd (List.cons.inj opens).1 notObject
      case h_3 => rfl

theorem readScalar_digit {first : Char} (digit : first.isDigit = true) (later : List Char)
    (start : Position) :
    readScalar ⟨first :: later, start⟩ = do
      let (number, cursor) ← readNumber false ⟨first :: later, start⟩
      return (number.toValue, cursor) := by
  unfold readScalar
  split
  case h_1 isNull => exact absurd digit (by rw [(List.cons.inj isNull).1]; decide)
  case h_2 isTrue => exact absurd digit (by rw [(List.cons.inj isTrue).1]; decide)
  case h_3 isFalse => exact absurd digit (by rw [(List.cons.inj isFalse).1]; decide)
  case h_4 isSign => exact absurd digit (by rw [(List.cons.inj isSign).1]; decide)
  case h_5 isQuote => exact absurd digit (by rw [(List.cons.inj isQuote).1]; decide)
  case h_6 isOther =>
    rw [← (List.cons.inj isOther).1, if_pos digit]
  case h_7 isEnd => cases isEnd

/-- A whole number of 64 bits is taken off its text. -/
theorem readScalar_whole {value : Int} (fits : Fits value) {rest : List Char}
    (ends : EndsNumber rest) : Takes readScalar (wholeText value) (.whole value) rest := by
  intro start
  have small : value.natAbs < UInt64.size := by
    obtain ⟨lower, upper⟩ := fits
    omega
  have number := wholeNumber_natAbs fits
  unfold wholeText
  split
  case isTrue negative =>
    obtain ⟨stop, taken⟩ := readNumber_takes true small ends (start.after '-')
    have behind : readScalar ⟨'-' :: (Nat.toDigits 10 value.natAbs ++ rest), start⟩ = do
        let (number, cursor) ← readNumber true
          ⟨Nat.toDigits 10 value.natAbs ++ rest, start.after '-'⟩
        return (number.toValue, cursor) := rfl
    refine ⟨stop, ?_⟩
    simp only [negative, decide_true] at number
    rw [List.cons_append, behind, taken, number]
    rfl
  case isFalse notNegative =>
    obtain ⟨stop, taken⟩ := readNumber_takes false small ends start
    obtain ⟨first, later, digits⟩ :=
      List.exists_cons_of_ne_nil (Nat.toDigits_ne_nil (n := value.natAbs) (b := 10))
    have digit : first.isDigit = true :=
      Nat.isDigit_of_mem_toDigits (b := 10) (n := value.natAbs) (by omega) (by omega)
        (by simp [digits])
    refine ⟨stop, ?_⟩
    simp only [notNegative, decide_false] at number
    rw [digits, List.cons_append] at taken ⊢
    rw [readScalar_digit digit, taken, number]
    rfl

theorem readScalar_null (rest : List Char) : Takes readScalar ['n', 'u', 'l', 'l'] .null rest := by
  intro start
  obtain ⟨stop, taken⟩ := readLetters_takes ['u', 'l', 'l'] Value.null rest (start.after 'n')
  exact ⟨stop, taken⟩

theorem readScalar_bool (value : Bool) (rest : List Char) :
    Takes readScalar (Value.bool value).compact (.bool value) rest := by
  intro start
  cases value with
  | true =>
      obtain ⟨stop, taken⟩ :=
        readLetters_takes ['r', 'u', 'e'] (Value.bool true) rest (start.after 't')
      refine ⟨stop, ?_⟩
      rw [Value.compact]
      exact taken
  | false =>
      obtain ⟨stop, taken⟩ :=
        readLetters_takes ['a', 'l', 's', 'e'] (Value.bool false) rest (start.after 'f')
      refine ⟨stop, ?_⟩
      rw [Value.compact]
      exact taken

theorem readScalar_text (value : String) (rest : List Char) :
    Takes readScalar (quote value) (.text value) rest := by
  intro start
  obtain ⟨stop, taken⟩ := readQuoted_takes value rest (start.after '"')
  have behind : readScalar ⟨'"' :: (quoteTail value ++ rest), start⟩ = do
      let text ← readQuoted ⟨quoteTail value ++ rest, start.after '"'⟩
      return (.text text.1, text.2) := rfl
  exact ⟨stop, by rw [quote_eq, List.cons_append, behind, taken]; rfl⟩

theorem Takes.ofScalar {text rest : List Char} {value : Value} (scalar : OpensScalar text)
    (takes : Takes readScalar text value rest) (depth : Nat) :
    Takes (readValue depth) text value rest := by
  obtain ⟨first, later, rfl, isStart⟩ := scalar
  intro start
  rw [List.cons_append, readValue_scalar isStart]
  exact takes start

/-! ## Lists and objects of values -/

theorem compactItems_eq (items : List Value) :
    Value.compactItems items = separated true (items.map Value.compact) ++ [']'] := by
  induction items with
  | nil => rfl
  | cons first later inductionHypothesis =>
      cases later with
      | nil => simp [Value.compactItems, separated]
      | cons second later => simp [Value.compactItems, separated, inductionHypothesis]

theorem compactMembers_eq (members : List (String × Value)) :
    Value.compactMembers members =
      separated true (members.map (memberText Value.compact)) ++ ['}'] := by
  induction members with
  | nil => rfl
  | cons first later inductionHypothesis =>
      cases later with
      | nil => simp [Value.compactMembers, separated, memberText]
      | cons second later => simp [Value.compactMembers, separated, memberText, inductionHypothesis]

theorem compact_array_append (items : List Value) (rest : List Char) :
    (Value.array items).compact ++ rest =
      '[' :: (separated true (items.map Value.compact) ++ ']' :: rest) := by
  rw [Value.compact, compactItems_eq]
  simp

theorem compact_object_append (members : List (String × Value)) (rest : List Char) :
    (Value.object members).compact ++ rest =
      '{' :: (separated true (members.map (memberText Value.compact)) ++ '}' :: rest) := by
  rw [Value.compact, compactMembers_eq]
  simp

theorem readValue_array {depth : Nat} {items : List Value}
    (opens : ∀ item ∈ items, Opens item.compact)
    (takes : ∀ item ∈ items, ∀ rest, EndsNumber rest →
      Takes (readValue depth) item.compact item rest) (rest : List Char) :
    Takes (readValue (depth + 1)) (Value.array items).compact (.array items) rest := by
  intro start
  let body := separated true (items.map Value.compact)
  have long : items.length < ('[' :: (body ++ ']' :: rest)).length :=
    Nat.lt_succ_of_lt (length_lt_rounds (fun item member => (opens item member).ne_nil) _ _)
  have itemsTaken : Takes (readItems (fun cursor => readValue depth cursor)
      ('[' :: (body ++ ']' :: rest)) true) body (items.map id) (']' :: rest) :=
    readItems_takes opens takes long true rest
  obtain ⟨stop, taken⟩ := itemsTaken (start.after '[')
  have behind : readValue (depth + 1) ⟨'[' :: (body ++ ']' :: rest), start⟩ = do
      let items ← readItems (fun cursor => readValue depth cursor)
        ('[' :: (body ++ ']' :: rest)) true ⟨body ++ ']' :: rest, start.after '['⟩
      let cursor ← closeList items.2
      return (.array items.1, cursor) := rfl
  refine ⟨stop.after ']', ?_⟩
  rw [compact_array_append, behind, taken]
  simp only [bind, Except.bind, closeList_eq, List.map_id]
  rfl

theorem readValue_object {depth : Nat} {members : List (String × Value)}
    (ordered : members.Pairwise fun first second => first.1 < second.1)
    (takes : ∀ member ∈ members, ∀ rest, EndsNumber rest →
      Takes (readValue depth) member.2.compact member.2 rest) (rest : List Char) :
    Takes (readValue (depth + 1)) (Value.object members).compact (.object members) rest := by
  intro start
  let member : KeyMap Value → String → Reader (KeyMap Value) := fun members name =>
    readBehindColon (readValue depth) (members.insert name)
  let step : KeyMap Value → String × Value → KeyMap Value :=
    fun state entry => state.insert entry.1 entry.2
  have memberTakes : ∀ before entry after, members = before ++ entry :: after →
      ∀ rest, EndsNumber rest →
        Takes (member (before.foldl step .empty) entry.1) (':' :: entry.2.compact)
          (step (before.foldl step .empty) entry) rest := by
    intro before entry after parts rest ends
    have inMembers : entry ∈ members := by simp [parts]
    exact readBehindColon_takes (takes entry inMembers rest ends) _
  let body := separated true (members.map (memberText Value.compact))
  have long : members.length < ('{' :: (body ++ '}' :: rest)).length :=
    Nat.lt_succ_of_lt (length_lt_rounds (fun entry _ => memberText_ne_nil Value.compact entry) _ _)
  obtain ⟨stop, taken⟩ := readMembers_takes memberTakes long true rest (start.after '{')
  have behind : readValue (depth + 1) ⟨'{' :: (body ++ '}' :: rest), start⟩ = do
      let members ← readMembers member ('{' :: (body ++ '}' :: rest)) true .empty
        ⟨body ++ '}' :: rest, start.after '{'⟩
      return (.object members.1.entries, members.2.next) := rfl
  have collected : members.foldl step .empty = KeyMap.ofList members := rfl
  refine ⟨stop.after '}', ?_⟩
  rw [compact_object_append, behind, taken, collected]
  simp only [bind, Except.bind, KeyMap.entries_ofList ordered]
  rfl

/-! ## Solid values -/

/-- Neither null nor a number with a fraction. -/
def Value.isSolid : Value → Bool
  | null | real _ => false
  | bool _ | whole _ | text _ | array _ | object _ => true

def OpensSolid (text : List Char) : Prop :=
  ∃ first later, text = first :: later ∧ isJsonBlank first = false ∧ first ≠ ']' ∧ first ≠ 'n'

theorem OpensSolid.opens {text : List Char} (solid : OpensSolid text) : Opens text := by
  obtain ⟨first, later, rfl, notBlank, notBracket, _⟩ := solid
  exact ⟨first, later, rfl, notBlank, notBracket⟩

theorem Value.opensSolid_compact {value : Value} (solid : value.isSolid = true) :
    OpensSolid value.compact := by
  cases value with
  | null => cases solid
  | real => cases solid
  | bool value =>
      cases value with
      | true => exact ⟨'t', _, by rw [compact], by decide, by decide, by decide⟩
      | false => exact ⟨'f', _, by rw [compact], by decide, by decide, by decide⟩
  | whole value =>
      obtain ⟨first, later, parts, isSign | digit⟩ := wholeText_cons value
      · exact ⟨first, later, by rw [compact, parts], by simp [isSign, isJsonBlank]⟩
      · obtain ⟨notBlank, _, notBracket, _⟩ :=
          isScalarStart_iff.mp (isScalarStart_of_isDigit digit)
        exact ⟨first, later, by rw [compact, parts], notBlank, notBracket,
          ne_of_isDigit digit (by decide)⟩
  | text value => exact ⟨'"', _, by rw [compact, quote_eq], by decide, by decide, by decide⟩
  | array items => exact ⟨'[', _, by rw [compact], by decide, by decide, by decide⟩
  | object members => exact ⟨'{', _, by rw [compact], by decide, by decide, by decide⟩

/-! ## Plain values -/

/-- A value that its text gives back: its numbers are whole ones of 64 bits, the members of its
objects are in order, and its lists and objects nest at most so deep. -/
inductive Value.Plain : Nat → Value → Prop where
  | null (depth : Nat) : Plain depth .null
  | bool (depth : Nat) (value : Bool) : Plain depth (.bool value)
  | whole (depth : Nat) {value : Int} (fits : Fits value) : Plain depth (.whole value)
  | text (depth : Nat) (value : String) : Plain depth (.text value)
  | array {depth : Nat} {items : List Value} (plain : ∀ item ∈ items, Plain depth item) :
      Plain (depth + 1) (.array items)
  | object {depth : Nat} {members : List (String × Value)}
      (ordered : members.Pairwise fun first second => first.1 < second.1)
      (plain : ∀ member ∈ members, Plain depth member.2) : Plain (depth + 1) (.object members)

theorem Value.Plain.opens {depth : Nat} {value : Value} (plain : value.Plain depth) :
    Opens value.compact := by
  cases plain with
  | null => exact ⟨'n', _, by rw [compact], by decide, by decide⟩
  | bool | whole | text | array | object => exact (opensSolid_compact rfl).opens

theorem readValue_takes {depth : Nat} {value : Value} (plain : value.Plain depth)
    {rest : List Char} (ends : EndsNumber rest) :
    Takes (readValue depth) value.compact value rest := by
  induction plain generalizing rest with
  | null depth =>
      have takes := readScalar_null rest
      rw [Value.compact]
      exact takes.ofScalar ⟨'n', _, rfl, by decide⟩ depth
  | bool depth value =>
      have takes := readScalar_bool value rest
      cases value with
      | true => exact takes.ofScalar ⟨'t', _, by rw [Value.compact], by decide⟩ depth
      | false => exact takes.ofScalar ⟨'f', _, by rw [Value.compact], by decide⟩ depth
  | whole depth fits =>
      rw [Value.compact]
      exact (readScalar_whole fits ends).ofScalar (opensScalar_wholeText _) depth
  | text depth value =>
      rw [Value.compact]
      exact (readScalar_text value rest).ofScalar ⟨'"', _, quote_eq value, by decide⟩ depth
  | array plain inductionHypothesis =>
      exact readValue_array (fun item member => (plain item member).opens)
        (fun item member _ ends => inductionHypothesis item member ends) rest
  | object ordered plain inductionHypothesis =>
      exact readValue_object ordered
        (fun entry member _ ends => inductionHypothesis entry member ends) rest

theorem endsNumber_nil : EndsNumber [] := by
  intro c isHead
  cases isHead

theorem Takes.readAll {α : Type} {reader : Reader α} {text : List Char} {value : α}
    (takes : Takes reader text value []) : readAll reader text = .ok value := by
  obtain ⟨stop, taken⟩ := takes .start
  rw [List.append_nil] at taken
  simp only [Json.readAll, Cursor.ofText, bind, Except.bind, taken]
  rfl

theorem parse_compact {value : Value} (plain : value.Plain maxDepth) :
    parse value.compact = .ok value :=
  (readValue_takes plain endsNumber_nil).readAll

end CodeGraph.Json
