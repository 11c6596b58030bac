import CodeGraph.Proofs.Json.Composites

/-!
# What the reader of a record makes of a value

A slot says what a value puts into a record.  If each field of a format is read as a slot, the
record of an object is what the members of known names put into the blank record, provided that no
known name comes again, and the record of a list is what the items put there, one slot after the
other.
-/

set_option autoImplicit false

namespace CodeGraph.Json

/-- What a value under a name puts into a record of type `ρ`. -/
structure Slot (ρ : Type) where
  name : String
  fill? : Tree → Option (ρ → ρ)

variable {ρ α : Type}

def Slot.into (name : String) (decode : Tree → Option α) (set : ρ → α → ρ) : Slot ρ :=
  ⟨name, fun tree => (decode tree).map fun content record => set record content⟩

theorem Slot.map_fill?_into (name : String) (decode : Tree → Option α) (set : ρ → α → ρ)
    (tree : Tree) (record : ρ) :
    ((into name decode set).fill? tree).map (· record) = (decode tree).map (set record) :=
  Option.map_map _ _ _

/-- The field may be missing, and is read as the slot says. -/
structure Field.ReadAs (field : Field ρ) (slot : Slot ρ) : Prop where
  name : field.name = slot.name
  required : field.required = false
  positional : field.positional = false
  settles : ∀ record, Settles (field.read record) fun tree => (slot.fill? tree).map (· record)

theorem Settles.into {reader : Reader α} {decode : Tree → Option α}
    (settles : Settles reader decode) (name : String) (set : ρ → α → ρ) (record : ρ) :
    Settles (Field.into reader set record)
      fun tree => ((Slot.into name decode set).fill? tree).map (· record) where
  blanks cursor := by
    unfold Field.into
    rw [settles.blanks]
  outcome_eq start spells := by
    rw [Slot.map_fill?_into]
    exact outcome_map (set record) (settles.outcome_eq start spells)

theorem Settles.omittable {reader : Reader α} {decode : Tree → Option α}
    (settles : Settles reader decode) (name : String) (set : ρ → α → ρ) :
    (Field.omittable name reader set).ReadAs (.into name decode set) :=
  ⟨rfl, rfl, rfl, settles.into name set⟩

theorem Settles.defaulted {reader : Reader α} {decode : Tree → Option α}
    (settles : Settles reader decode) (name : String) (set : ρ → Option α → ρ) :
    (Field.defaulted name reader set).ReadAs (.into name (orNull? decode) set) :=
  ⟨rfl, rfl, rfl, settles.option.into name set⟩

/-! ## Objects -/

def known (names : List String) (members : List (Option String × Tree)) : List String :=
  (members.filterMap Prod.fst).filter (names.contains ·)

/-- No known name comes again. -/
def Once (names : List String) (members : List (Option String × Tree)) : Prop :=
  (known names members).Nodup

instance (names : List String) (members : List (Option String × Tree)) :
    Decidable (Once names members) :=
  inferInstanceAs (Decidable (List.Nodup _))

section Known

variable {names : List String} {members : List (Option String × Tree)} {name : String} {tree : Tree}

theorem known_cons_of_mem (isKnown : name ∈ names) :
    known names ((some name, tree) :: members) = name :: known names members := by
  simp [known, isKnown]

theorem known_cons_of_not_mem (unknown : name ∉ names) :
    known names ((some name, tree) :: members) = known names members := by
  simp [known, unknown]

theorem once_cons_of_mem (isKnown : name ∈ names) :
    Once names ((some name, tree) :: members) ↔
      name ∉ known names members ∧ Once names members := by
  rw [Once, known_cons_of_mem isKnown, List.nodup_cons]
  rfl

theorem once_cons_of_not_mem (unknown : name ∉ names) :
    Once names ((some name, tree) :: members) ↔ Once names members := by
  rw [Once, known_cons_of_not_mem unknown]
  rfl

end Known

/-- What a member puts into a record: nothing if its name is not known. -/
def fillNamed? (slots : List (Slot ρ)) (record : ρ) (name : String) (tree : Tree) : Option ρ :=
  match slots.find? fun slot => slot.name = name with
  | some slot => (slot.fill? tree).map (· record)
  | none => some record

def takeMember? (slots : List (Slot ρ)) (state : List String × ρ) (name : String) (tree : Tree) :
    Option (List String × ρ) :=
  match slots.find? fun slot => slot.name = name with
  | some slot =>
      if name ∈ state.1 then none
      else (slot.fill? tree).map fun update => (name :: state.1, update state.2)
  | none => some state

theorem find?_eq_none_iff_not_mem {slots : List (Slot ρ)} {name : String} :
    (slots.find? fun slot => slot.name = name) = none ↔ name ∉ slots.map Slot.name := by
  simp

/-- The members lead to a record if each of them does and no known name comes again. -/
theorem collect?_takeMember? (slots : List (Slot ρ)) (members : List (Option String × Tree))
    (seen : List String) (record : ρ) :
    (collect? (takeMember? slots) (seen, record) members).map Prod.snd =
      if Once (slots.map Slot.name) members ∧
          ∀ name ∈ known (slots.map Slot.name) members, name ∉ seen then
        collect? (fillNamed? slots) record members
      else none := by
  induction members generalizing seen record with
  | nil => simp [collect?, Once, known]
  | cons member members inductionHypothesis =>
      obtain ⟨label, tree⟩ := member
      cases label with
      | none => simp [collect?]
      | some name =>
          have parts : collect? (takeMember? slots) (seen, record) ((some name, tree) :: members) =
              (takeMember? slots (seen, record) name tree).bind fun state =>
                collect? (takeMember? slots) state members := rfl
          have partsNamed : collect? (fillNamed? slots) record ((some name, tree) :: members) =
              (fillNamed? slots record name tree).bind fun record =>
                collect? (fillNamed? slots) record members := rfl
          rw [parts, partsNamed]
          cases found : slots.find? fun slot => slot.name = name with
          | none =>
              have unknown := find?_eq_none_iff_not_mem.mp found
              simp only [takeMember?, fillNamed?, found, Option.bind_some,
                once_cons_of_not_mem unknown, known_cons_of_not_mem unknown]
              exact inductionHypothesis seen record
          | some slot =>
              have isKnown : name ∈ slots.map Slot.name := by
                by_contra unknown
                rw [find?_eq_none_iff_not_mem.mpr unknown] at found
                cases found
              simp only [takeMember?, fillNamed?, found, once_cons_of_mem isKnown,
                known_cons_of_mem isKnown]
              by_cases isSeen : name ∈ seen
              · simp [isSeen]
              · rw [if_neg isSeen]
                cases slot.fill? tree with
                | none => simp
                | some update =>
                    have fresh : (∀ other ∈ known (slots.map Slot.name) members,
                        other ∉ name :: seen) ↔ name ∉ known (slots.map Slot.name) members ∧
                          ∀ other ∈ known (slots.map Slot.name) members, other ∉ seen := by
                      simp only [List.mem_cons, not_or, forall_and, List.forall_mem_ne']
                    simp only [Option.map_some, Option.bind_some, inductionHypothesis, fresh,
                      List.forall_mem_cons, isSeen, not_false_eq_true, true_and, and_assoc,
                      and_left_comm]

section Records

variable {format : RecordFormat ρ} {slots : List (Slot ρ)}

/-- A name finds a field and the slot that it is read as, or neither. -/
theorem find?_readAs {fields : List (Field ρ)} (readAs : List.Forall₂ Field.ReadAs fields slots)
    (name : String) :
    Option.Rel Field.ReadAs (fields.find? fun field => field.name = name)
      (slots.find? fun slot => slot.name = name) := by
  induction readAs with
  | nil => exact .none
  | @cons field slot fields slots first later inductionHypothesis =>
      rw [List.find?_cons, List.find?_cons, first.name]
      split
      case h_1 => exact .some first
      case h_2 => exact inductionHypothesis

theorem follows_readMember (readAs : List.Forall₂ Field.ReadAs format.fields slots) :
    Follows format.readMember (takeMember? slots) := by
  intro state name tree named colon value behind beforeColon behindColon spells start
  obtain ⟨between, passed⟩ := readColon_blanks beforeColon start
  have found := find?_readAs readAs name
  unfold RecordFormat.readMember takeMember?
  cases isSlot : slots.find? fun slot => slot.name = name with
  | none =>
      rw [isSlot] at found
      cases isField : format.fields.find? fun field => field.name = name with
      | some field => rw [isField] at found; cases found
      | none =>
          obtain ⟨stop, skipped⟩ := skipValue_passes behindColon spells between
          simp only [passed, bind, Except.bind, skipped]
          rfl
  | some slot =>
      rw [isSlot] at found
      cases isField : format.fields.find? fun field => field.name = name with
      | none => rw [isField] at found; cases found
      | some field =>
          rw [isField] at found
          cases found with
          | some readAs =>
              by_cases isSeen : name ∈ state.1
              · simp only [List.contains_eq_mem, isSeen, decide_true, if_true]
                rfl
              · simp only [List.contains_eq_mem, isSeen, decide_false, Bool.false_eq_true, if_false,
                  passed, bind, Except.bind]
                have settled :=
                  (readAs.settles state.2).behind_blanks behindColon spells between
                have parts : ((slot.fill? tree).map (· state.2)).map
                      (fun record => (name :: state.1, record)) =
                    (slot.fill? tree).map fun update => (name :: state.1, update state.2) :=
                  Option.map_map _ _ _
                rw [← parts]
                exact outcome_map (fun record => (name :: state.1, record)) settled

theorem mayBeMissing {fields : List (Field ρ)} (readAs : List.Forall₂ Field.ReadAs fields slots) :
    ∀ field ∈ fields, field.required = false ∧ field.positional = false := by
  induction readAs with
  | nil => exact List.forall_mem_nil _
  | cons first later inductionHypothesis =>
      exact List.forall_mem_cons.mpr ⟨⟨first.required, first.positional⟩, inductionHypothesis⟩

theorem firstMissing?_eq_none (readAs : List.Forall₂ Field.ReadAs format.fields slots)
    (present : List String) : format.firstMissing? present = none := by
  rw [RecordFormat.firstMissing?, Option.map_eq_none_iff, List.find?_eq_none]
  intro field isField
  simp [(mayBeMissing readAs field isField).1]

theorem readObject_outcome (readAs : List.Forall₂ Field.ReadAs format.fields slots)
    {members : List (Option String × Tree)} {text rest : List Char}
    (spells : Spells (.members true members) text rest) (start : Position) :
    outcome (format.readObject ⟨text, start⟩) =
      (if Once (slots.map Slot.name) members then
        collect? (fillNamed? slots) format.blank members else none).map (·, rest) := by
  have enough := spells.size_le
  have shorter : members.length < text.length := by
    simp only [Phrase.size] at enough
    omega
  have collected := readMembers_outcome (follows_readMember readAs) spells shorter
    ([], format.blank) start
  have names := collect?_takeMember? slots members [] format.blank
  simp only [List.not_mem_nil, not_false_eq_true, implies_true, and_true] at names
  have parts : (collect? (takeMember? slots) ([], format.blank) members).map Prod.snd =
      (collect? (takeMember? slots) ([], format.blank) members).bind fun state => some state.2 :=
    Option.map_eq_bind
  rw [← names, parts]
  refine outcome_bind collected fun state stop => ?_
  obtain ⟨present, record⟩ := state
  simp only [firstMissing?_eq_none readAs]
  rfl

/-! ## Lists -/

/-- What items put into a record, one slot after the other.  Items that no slot is left for are
refused. -/
def fillAll? : List (Slot ρ) → List Tree → ρ → Option ρ
  | _, [], record => some record
  | [], _ :: _, _ => none
  | slot :: slots, tree :: trees, record =>
      (slot.fill? tree).bind fun update => fillAll? slots trees (update record)

theorem closeList_refuses {isFirst : Bool} {tree : Tree} {trees : List Tree} {text rest : List Char}
    (spells : Spells (.items isFirst (tree :: trees)) text rest) (start : Position) :
    ∃ fault, closeList ⟨text, start⟩ = .error fault := by
  cases spells with
  | item separates first later =>
      obtain ⟨opening, inner, rfl, begins⟩ := first.begins
      cases isFirst with
      | true =>
          obtain ⟨stop, skipped⟩ := Blanks.skips_to separates begins.notBlank start
          obtain ⟨notComma, notBracket, _⟩ := begins.notMark
          simp only [closeList, skipped]
          split
          case h_1 closes => exact absurd (List.cons.inj closes).1 notBracket
          case h_2 isComma => exact absurd (List.cons.inj isComma).1 notComma
          case h_3 ends => cases ends
          case h_4 => exact ⟨_, rfl⟩
      | false =>
          obtain ⟨behind, toComma, behindComma⟩ := separates
          obtain ⟨between, skipped⟩ := toComma.skips_to rfl start
          simp only [closeList, skipped]
          split <;> exact ⟨_, rfl⟩

theorem readPositions_outcome {fields : List (Field ρ)}
    (readAs : List.Forall₂ Field.ReadAs fields slots) {trees : List Tree} {passed : Nat}
    {text rest : List Char} (spells : Spells (.items (passed = 0) trees) text rest) (record : ρ)
    (start : Position) :
    outcome (format.readPositions fields passed record ⟨text, start⟩ >>= fun taken =>
        closeList taken.2 >>= fun cursor => return (taken.1, cursor)) =
      (fillAll? slots trees record).map (·, rest) := by
  induction readAs generalizing trees passed text record start with
  | nil =>
      cases trees with
      | nil =>
          cases spells with
          | endList _ blanks =>
              obtain ⟨stop, closed⟩ := closeList_ends blanks start
              simp only [RecordFormat.readPositions, bind, Except.bind, closed]
              rfl
      | cons tree trees =>
          obtain ⟨fault, refused⟩ := closeList_refuses spells start
          simp only [RecordFormat.readPositions, bind, Except.bind, refused]
          rfl
  | @cons field slot fields slots first later inductionHypothesis =>
      cases trees with
      | nil =>
          cases spells with
          | endList _ blanks =>
              obtain ⟨stop, moved⟩ := nextItem_ends (passed = 0) blanks start
              have optional := mayBeMissing (.cons first later)
              have noneAhead : (field :: fields).findIdx? Field.positional = none := by
                rw [List.findIdx?_eq_none_iff]
                exact fun field isField => (optional field isField).2
              simp only [RecordFormat.readPositions, moved, bind, Except.bind, Bool.false_eq_true,
                if_false, noneAhead]
              rfl
      | cons tree trees =>
          cases spells with
          | @item _ _ _ _ _ behind _ separates spelled spelledLater =>
              obtain ⟨opening, inner, rfl, begins⟩ := spelled.begins
              obtain ⟨opened, moved⟩ :=
                nextItem_separates separates begins.notBlank begins.notMark.2.1 start
              have step : (format.readPositions (field :: fields) passed record ⟨text, start⟩ >>=
                    fun taken => closeList taken.2 >>= fun cursor => return (taken.1, cursor)) =
                  field.read record ⟨opening :: inner, opened⟩ >>= fun taken =>
                    format.readPositions fields (passed + 1) taken.1 taken.2 >>= fun taken =>
                      closeList taken.2 >>= fun cursor => return (taken.1, cursor) := by
                simp only [RecordFormat.readPositions, moved, bind, Except.bind, if_true]
                cases field.read record ⟨opening :: inner, opened⟩ <;> rfl
              have parts : fillAll? (slot :: slots) (tree :: trees) record =
                  ((slot.fill? tree).map (· record)).bind fun record =>
                    fillAll? slots trees record := by
                rw [fillAll?]
                cases slot.fill? tree <;> rfl
              have notFirst : Spells (.items (passed + 1 = 0) trees) behind rest := by
                simpa using spelledLater
              rw [step, parts]
              exact outcome_bind ((first.settles record).outcome_eq opened spelled)
                fun record stop => inductionHypothesis notFirst record stop

/-! ## Records -/

def recordOf? (blank : ρ) (slots : List (Slot ρ)) : Tree → Option ρ
  | .object members =>
      if Once (slots.map Slot.name) members then collect? (fillNamed? slots) blank members else none
  | .list trees => fillAll? slots trees blank
  | _ => none

theorem RecordFormat.read_opensWith (format : RecordFormat ρ) :
    OpensWith format.read ['{', '['] := by
  intro first later start notBlank other
  simp only [read, valueStart_eq notBlank, bind, Except.bind]
  split
  case h_1 opens => exact absurd (List.cons.inj opens).1 (List.ne_of_not_mem_cons other)
  case h_2 opens =>
    have notBracket := List.ne_of_not_mem_cons (List.not_mem_of_not_mem_cons other)
    exact absurd (List.cons.inj opens).1 notBracket
  case h_3 => exact refuse_outcome _ _

theorem Settles.record (readAs : List.Forall₂ Field.ReadAs format.fields slots) :
    Settles format.read (recordOf? format.blank slots) where
  blanks cursor := by simp only [RecordFormat.read, valueStart_skipBlanks]
  outcome_eq {tree text rest} start spells := by
    have refused := format.read_opensWith.refuses spells
    cases spells with
    | object inside => exact readObject_outcome readAs inside (start.after '{')
    | list inside =>
        have isFirst : Spells (.items (0 = 0) _) _ rest := inside
        exact readPositions_outcome readAs isFirst format.blank (start.after '[')
    | null | isTrue | isFalse | number | text =>
        exact refused (by simp [Tree.BeginsWith]) start

end Records

end CodeGraph.Json
