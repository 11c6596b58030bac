import CodeGraph.Proofs.Json.Decoding

/-!
# What the readers make of composite values

Options, lists, maps and constants: the outcome on a value is put together from the outcomes on its
parts, whatever text the value has.
-/

set_option autoImplicit false

namespace CodeGraph.Json

variable {α : Type}

/-! ## Options -/

def orNull? (decode : Tree → Option α) : Tree → Option (Option α)
  | .null => some none
  | tree => (decode tree).map some

theorem orNull?_of_ne {decode : Tree → Option α} {tree : Tree} (notNull : tree ≠ .null) :
    orNull? decode tree = (decode tree).map some := by
  cases tree with
  | null => exact absurd rfl notNull
  | bool | number | text | list | object => rfl

theorem readOption_of_ne (reader : Reader α) {first : Char} (notBlank : isJsonBlank first = false)
    (notNull : first ≠ 'n') (later : List Char) (start : Position) :
    readOption reader ⟨first :: later, start⟩ = do
      let (value, cursor) ← reader ⟨first :: later, start⟩
      return (some value, cursor) := by
  simp only [readOption, skipBlanks_eq first notBlank]
  split
  case h_1 isNull => exact absurd (List.cons.inj isNull).1 notNull
  case h_2 => rfl

theorem Spells.first_ne_n {tree : Tree} {text rest : List Char}
    (spells : Spells (.value tree) text rest) (notNull : tree ≠ .null) :
    ∃ first later, text = first :: later ∧ isJsonBlank first = false ∧ first ≠ 'n' := by
  obtain ⟨first, later, parts, begins⟩ := spells.begins
  refine ⟨first, later, parts, begins.notBlank, ?_⟩
  cases tree with
  | null => exact absurd rfl notNull
  | bool value => cases value <;> cases begins <;> decide
  | number => exact ne_of_beginsNumber begins (by decide) rfl
  | text | list | object => cases begins; decide

theorem Settles.option {reader : Reader α} {decode : Tree → Option α}
    (settles : Settles reader decode) : Settles (readOption reader) (orNull? decode) where
  blanks cursor := by simp only [readOption, skipBlanks_skipBlanks]
  outcome_eq {tree text rest} start spells := by
    by_cases isNull : tree = .null
    · subst isNull
      cases spells with
      | null =>
          obtain ⟨stop, taken⟩ :=
            readLetters_takes ['u', 'l', 'l'] (none : Option α) rest (start.after 'n')
          exact congrArg outcome taken
    · obtain ⟨first, later, rfl, notBlank, notNull⟩ := spells.first_ne_n isNull
      rw [readOption_of_ne reader notBlank notNull, orNull?_of_ne isNull]
      exact outcome_map some (settles.outcome_eq start spells)

/-! ## Between the parts -/

theorem nextName_separates {isFirst : Bool} {text rest : List Char}
    (separates : Separates isFirst text ('"' :: rest)) (start : Position) :
    ∃ stop, nextName isFirst ⟨text, start⟩ = .ok (true, ⟨rest, stop⟩) := by
  cases isFirst with
  | true =>
      obtain ⟨stop, skipped⟩ := Blanks.skips_to separates rfl start
      refine ⟨stop.after '"', ?_⟩
      simp only [nextName, skipped]
      rfl
  | false =>
      obtain ⟨behind, toComma, behindComma⟩ := separates
      obtain ⟨between, skipped⟩ := toComma.skips_to rfl start
      obtain ⟨stop, skippedLater⟩ := behindComma.skips_to rfl (between.after ',')
      refine ⟨stop.after '"', ?_⟩
      simp only [nextName, skipped, Cursor.next, skippedLater]
      rfl

theorem nextName_ends (isFirst : Bool) {text rest : List Char} (blanks : Blanks text ('}' :: rest))
    (start : Position) :
    ∃ stop, nextName isFirst ⟨text, start⟩ = .ok (false, ⟨'}' :: rest, stop⟩) := by
  obtain ⟨stop, skipped⟩ := blanks.skips_to rfl start
  refine ⟨stop, ?_⟩
  simp only [nextName, skipped]

theorem nextItem_separates {isFirst : Bool} {text later : List Char} {first : Char}
    (separates : Separates isFirst text (first :: later)) (notBlank : isJsonBlank first = false)
    (notBracket : first ≠ ']') (start : Position) :
    ∃ stop, nextItem isFirst ⟨text, start⟩ = .ok (true, ⟨first :: later, stop⟩) := by
  cases isFirst with
  | true =>
      obtain ⟨stop, skipped⟩ := Blanks.skips_to separates notBlank start
      refine ⟨stop, ?_⟩
      simp only [nextItem, skipped]
      rfl
  | false =>
      obtain ⟨behind, toComma, behindComma⟩ := separates
      obtain ⟨between, skipped⟩ := toComma.skips_to rfl start
      obtain ⟨stop, skippedLater⟩ := behindComma.skips_to notBlank (between.after ',')
      refine ⟨stop, ?_⟩
      simp only [nextItem, skipped, Cursor.next, skippedLater, Bool.false_eq_true, if_false]
      split
      case h_1 ends => cases ends
      case h_2 closes => cases closes
      case h_3 isComma =>
        cases isComma
        rw [if_pos rfl]
        split
        case h_1 ends => cases ends
        case h_2 closes => exact absurd (List.cons.inj closes).1 notBracket
        case h_3 => rfl

theorem nextItem_ends (isFirst : Bool) {text rest : List Char} (blanks : Blanks text (']' :: rest))
    (start : Position) :
    ∃ stop, nextItem isFirst ⟨text, start⟩ = .ok (false, ⟨']' :: rest, stop⟩) := by
  obtain ⟨stop, skipped⟩ := blanks.skips_to rfl start
  refine ⟨stop, ?_⟩
  simp only [nextItem, skipped]

/-! ## Lists -/

def listOf? (decode : Tree → Option α) : Tree → Option (List α)
  | .list trees => trees.mapM decode
  | _ => none

theorem mapM_cons_eq_bind (decode : Tree → Option α) (tree : Tree) (trees : List Tree) :
    (tree :: trees).mapM decode =
      (decode tree).bind fun content => (trees.mapM decode).map (content :: ·) := by
  rw [List.mapM_cons]
  cases decode tree with
  | none => rfl
  | some content => cases trees.mapM decode <;> rfl

theorem readItems_outcome {item : Reader α} {decode : Tree → Option α}
    (settles : Settles item decode) {trees : List Tree} {isFirst : Bool}
    {text rest rounds : List Char} (spells : Spells (.items isFirst trees) text rest)
    (enough : trees.length < rounds.length) (start : Position) :
    outcome (readItems item rounds isFirst ⟨text, start⟩) =
      (trees.mapM decode).map (·, ']' :: rest) := by
  induction trees generalizing isFirst text rounds start with
  | nil =>
      obtain ⟨round, rounds, rfl⟩ := List.exists_cons_of_length_pos enough
      cases spells with
      | endList _ blanks =>
          obtain ⟨stop, moved⟩ := nextItem_ends isFirst blanks start
          rw [readItems, moved]
          rfl
  | cons tree trees inductionHypothesis =>
      obtain ⟨round, rounds, rfl⟩ := List.exists_cons_of_length_pos (Nat.zero_lt_of_lt enough)
      cases spells with
      | item separates first later =>
          obtain ⟨opening, inner, rfl, begins⟩ := first.begins
          obtain ⟨opened, moved⟩ :=
            nextItem_separates separates begins.notBlank begins.notMark.2.1 start
          have shorter : trees.length < rounds.length := Nat.lt_of_succ_lt_succ enough
          have step : readItems item (round :: rounds) isFirst ⟨text, start⟩ =
              item ⟨opening :: inner, opened⟩ >>= fun taken =>
                readItems item rounds false taken.2 >>= fun later =>
                  return (taken.1 :: later.1, later.2) := by
            rw [readItems, moved]
            rfl
          rw [step, mapM_cons_eq_bind]
          exact outcome_bind (settles.outcome_eq opened first) fun content stop =>
            outcome_map (content :: ·) (inductionHypothesis later shorter stop)

theorem closeList_ends {text rest : List Char} (blanks : Blanks text (']' :: rest))
    (start : Position) : ∃ stop, closeList ⟨text, start⟩ = .ok ⟨rest, stop⟩ := by
  obtain ⟨stop, skipped⟩ := blanks.skips_to rfl start
  refine ⟨stop.after ']', ?_⟩
  simp only [closeList, skipped]
  rfl

theorem readList_opensWith (item : Reader α) : OpensWith (readList item) ['['] := by
  intro first later start notBlank other
  simp only [readList, valueStart_eq notBlank, bind, Except.bind]
  split
  case h_1 opens => exact absurd (List.cons.inj opens).1 (List.ne_of_not_mem_cons other)
  case h_2 => exact refuse_outcome _ _

theorem Settles.list {item : Reader α} {decode : Tree → Option α} (settles : Settles item decode) :
    Settles (readList item) (listOf? decode) where
  blanks cursor := by simp only [readList, valueStart_skipBlanks]
  outcome_eq {tree text rest} start spells := by
    have refused := (readList_opensWith item).refuses spells
    cases spells with
    | @list trees text _ inside =>
        have enough := inside.size_le
        have behind : readList item ⟨'[' :: text, start⟩ =
            readItems item ('[' :: text) true ⟨text, start.after '['⟩ >>= fun taken =>
              closeList taken.2 >>= fun cursor => return (taken.1, cursor) := rfl
        rw [behind, listOf?, ← Option.bind_fun_some (trees.mapM decode)]
        refine outcome_bind (readItems_outcome settles inside ?_ _) fun content stop => ?_
        · simp only [Phrase.size, List.length_cons] at enough ⊢
          omega
        · rw [closeList_eq]
          rfl
    | null | isTrue | isFalse | number | text | object =>
        exact refused (by simp [Tree.BeginsWith]) start

/-! ## Members -/

section Members

variable {σ : Type}

def collect? (take : σ → String → Tree → Option σ) (state : σ)
    (members : List (Option String × Tree)) : Option σ :=
  members.foldlM (fun state member => member.1.bind fun name => take state name member.2) state

/-- Behind the name, the outcome of a member's reader is what the state takes from the value. -/
def Follows (member : σ → String → Reader σ) (take : σ → String → Tree → Option σ) : Prop :=
  ∀ state name {tree named colon value behind}, Blanks named (':' :: colon) → Blanks colon value →
    Spells (.value tree) value behind → ∀ start,
      outcome (member state name ⟨named, start⟩) = (take state name tree).map (·, behind)

theorem readMembers_outcome {member : σ → String → Reader σ} {take : σ → String → Tree → Option σ}
    (follows : Follows member take) {members : List (Option String × Tree)} {isFirst : Bool}
    {text rest rounds : List Char} (spells : Spells (.members isFirst members) text rest)
    (enough : members.length < rounds.length) (state : σ) (start : Position) :
    outcome (readMembers member rounds isFirst state ⟨text, start⟩) =
      (collect? take state members).map (·, '}' :: rest) := by
  induction members generalizing isFirst text rounds state start with
  | nil =>
      obtain ⟨round, rounds, rfl⟩ := List.exists_cons_of_length_pos enough
      cases spells with
      | endObject _ blanks =>
          obtain ⟨stop, moved⟩ := nextName_ends isFirst blanks start
          rw [readMembers, moved]
          rfl
  | cons entry members inductionHypothesis =>
      obtain ⟨round, rounds, rfl⟩ := List.exists_cons_of_length_pos (Nat.zero_lt_of_lt enough)
      cases spells with
      | @member _ pieces tree _ _ named _ _ _ _ separates beforeColon behindColon first later =>
          have shorter : members.length < rounds.length := Nat.lt_of_succ_lt_succ enough
          obtain ⟨opened, moved⟩ := nextName_separates separates start
          have step : readMembers member (round :: rounds) isFirst state ⟨text, start⟩ =
              readQuoted ⟨spelling pieces ++ '"' :: named, opened⟩ >>= fun name =>
                member state name.1 name.2 >>= fun state =>
                  readMembers member rounds false state.1 state.2 := by
            rw [readMembers, moved]
            rfl
          have parts : collect? take state ((content? pieces, tree) :: members) =
              (content? pieces).bind fun name =>
                (take state name tree).bind fun state => collect? take state members := by
            rw [collect?, List.foldlM_cons]
            cases content? pieces <;> rfl
          rw [step, parts]
          refine outcome_bind (readQuoted_outcome pieces named opened) fun name stop => ?_
          exact outcome_bind (follows state name beforeColon behindColon first stop)
            fun state stop => inductionHypothesis later shorter state stop

end Members

/-! ## Maps -/

/-- The last value of a name counts. -/
def mapOf? (decode : Tree → Option α) : Tree → Option (KeyMap α)
  | .object members =>
      collect? (fun map name tree => (decode tree).map (map.insert name)) .empty members
  | _ => none

theorem Settles.follows_colon {σ : Type} {reader : Reader α} {decode : Tree → Option α}
    (settles : Settles reader decode) (into : σ → String → α → σ) :
    Follows (fun state name => readBehindColon reader (into state name))
      fun state name tree => (decode tree).map (into state name) := by
  intro state name tree named colon value behind beforeColon behindColon spells start
  obtain ⟨stop, passed⟩ := readColon_blanks beforeColon start
  simp only [readBehindColon, passed]
  exact outcome_map (into state name) (settles.behind_blanks behindColon spells stop)

theorem readMap_opensWith (item : Reader α) : OpensWith (readMap item) ['{'] := by
  intro first later start notBlank other
  simp only [readMap, valueStart_eq notBlank, bind, Except.bind]
  split
  case h_1 opens => exact absurd (List.cons.inj opens).1 (List.ne_of_not_mem_cons other)
  case h_2 => exact refuse_outcome _ _

theorem Settles.map {item : Reader α} {decode : Tree → Option α} (settles : Settles item decode) :
    Settles (readMap item) (mapOf? decode) where
  blanks cursor := by simp only [readMap, valueStart_skipBlanks]
  outcome_eq {tree text rest} start spells := by
    have refused := (readMap_opensWith item).refuses spells
    cases spells with
    | @object members text _ inside =>
        have enough := inside.size_le
        have behind : readMap item ⟨'{' :: text, start⟩ =
            readMembers (fun map name => readBehindColon item (map.insert name)) ('{' :: text) true
              .empty ⟨text, start.after '{'⟩ >>= fun taken => return (taken.1, taken.2.next) := rfl
        have shorter : members.length < ('{' :: text).length := by
          simp only [Phrase.size, List.length_cons] at enough ⊢
          omega
        have collected := readMembers_outcome (settles.follows_colon (KeyMap.insert (α := α)))
          inside shorter .empty (start.after '{')
        rw [behind, mapOf?, ← Option.bind_fun_some (collect? _ _ _)]
        exact outcome_bind collected fun map stop => rfl
    | null | isTrue | isFalse | number | text | list =>
        exact refused (by simp [Tree.BeginsWith]) start

/-! ## Constants -/

namespace Variants

variable (variants : Variants α)

def ofName? (name : String) : Option α :=
  (variants.table.lookup name).or variants.other?

def decode? : Tree → Option α
  | .text content => content.bind variants.ofName?
  | .object [(content, .null)] => content.bind variants.ofName?
  | _ => none

theorem outcome_resolve (name : String) (cursor : Cursor) :
    outcome (do
      let constant ← variants.resolve name cursor
      return (constant, cursor)) = (variants.ofName? name).map (·, cursor.rest) := by
  unfold resolve ofName?
  cases variants.table.lookup name with
  | some constant => rfl
  | none => cases variants.other? <;> rfl

def closeConstant (constant : α) (c : Cursor) : Except Fault (α × Cursor) :=
  let c := c.skipBlanks
  match c.rest with
  | '}' :: _ => return (constant, c.next)
  | [] => throw (c.fault .endOfObject)
  | _ => throw (c.fault .expectedValue)

def readBehindName (name : String) : Reader α := fun c => do
  let constant ← variants.resolve name c
  let c ← readColon c
  let (_, c) ← readUnit c
  closeConstant constant c

theorem read_object (text : List Char) (start : Position) :
    variants.read ⟨'{' :: text, start⟩ =
      nextName true ⟨text, start.after '{'⟩ >>= fun moved =>
        if moved.1 then readQuoted moved.2 >>= fun name => variants.readBehindName name.1 name.2
        else .error (moved.2.faultAhead .expectedValue) := by
  have notBlank : isJsonBlank '{' = false := rfl
  simp only [read, valueStart_eq notBlank, bind, Except.bind, Cursor.next]
  cases nextName true ⟨text, start.after '{'⟩ with
  | error => rfl
  | ok moved =>
      obtain ⟨isMore, cursor⟩ := moved
      cases isMore <;> rfl

theorem read_opensWith : OpensWith variants.read ['"', '{'] := by
  intro first later start notBlank other
  simp only [read, valueStart_eq notBlank, bind, Except.bind]
  split
  case h_1 quoted => exact absurd (List.cons.inj quoted).1 (List.ne_of_not_mem_cons other)
  case h_2 opens =>
    have notBrace := List.ne_of_not_mem_cons (List.not_mem_of_not_mem_cons other)
    exact absurd (List.cons.inj opens).1 notBrace
  case h_3 => rfl

end Variants

def Tree.unit? : Tree → Option Unit
  | null => some ()
  | _ => none

theorem readUnit_opensWith : OpensWith Variants.readUnit ['n'] := by
  intro first later start notBlank other
  simp only [Variants.readUnit, valueStart_eq notBlank, bind, Except.bind]
  split
  case h_1 isN => exact absurd (List.cons.inj isN).1 (List.ne_of_not_mem_cons other)
  case h_2 => exact refuse_outcome _ _

theorem settles_unit : Settles Variants.readUnit Tree.unit? where
  blanks cursor := by simp only [Variants.readUnit, valueStart_skipBlanks]
  outcome_eq {tree text rest} start spells := by
    have refused := readUnit_opensWith.refuses spells
    cases spells with
    | null =>
        obtain ⟨stop, taken⟩ := readLetters_takes ['u', 'l', 'l'] () rest (start.after 'n')
        exact congrArg outcome taken
    | isTrue | isFalse | number | text | list | object =>
        exact refused (by simp [Tree.BeginsWith]) start

namespace Variants

variable (variants : Variants α)

/-- An object of a constant ends behind its only member. -/
theorem outcome_closeConstant (constant : α) {members : List (Option String × Tree)}
    {text rest : List Char} (spells : Spells (.members false members) text rest)
    (start : Position) :
    outcome (closeConstant constant ⟨text, start⟩) =
      (if members.isEmpty then some constant else none).map (·, rest) := by
  cases spells with
  | endObject _ blanks =>
      obtain ⟨stop, skipped⟩ := blanks.skips_to rfl start
      simp only [closeConstant, skipped]
      rfl
  | member name separates =>
      obtain ⟨behind, toComma, _⟩ := separates
      obtain ⟨stop, skipped⟩ := toComma.skips_to rfl start
      simp only [closeConstant, skipped]
      rfl

theorem outcome_readBehindName (name : String) {tree : Tree} {members : List (Option String × Tree)}
    {named colon value behind rest : List Char} (beforeColon : Blanks named (':' :: colon))
    (behindColon : Blanks colon value) (first : Spells (.value tree) value behind)
    (later : Spells (.members false members) behind rest) (start : Position) :
    outcome (variants.readBehindName name ⟨named, start⟩) =
      ((variants.ofName? name).bind fun constant => tree.unit?.bind fun _ =>
        if members.isEmpty then some constant else none).map (·, rest) := by
  have step : variants.readBehindName name ⟨named, start⟩ =
      (do
        let constant ← variants.resolve name ⟨named, start⟩
        return (constant, (⟨named, start⟩ : Cursor))) >>= fun resolved =>
          readColon resolved.2 >>= fun cursor => readUnit cursor >>= fun taken =>
            closeConstant resolved.1 taken.2 := by
    unfold readBehindName
    cases variants.resolve name ⟨named, start⟩ <;> rfl
  rw [step]
  refine outcome_bind (variants.outcome_resolve name ⟨named, start⟩) fun constant start => ?_
  obtain ⟨stop, passed⟩ := readColon_blanks beforeColon start
  simp only [passed]
  exact outcome_bind (settles_unit.behind_blanks behindColon first stop)
    fun _ stop => outcome_closeConstant constant later stop

theorem decode?_object (content : Option String) (tree : Tree)
    (members : List (Option String × Tree)) :
    variants.decode? (.object ((content, tree) :: members)) =
      content.bind fun name => (variants.ofName? name).bind fun constant =>
        tree.unit?.bind fun _ => if members.isEmpty then some constant else none := by
  have nothing : (content.bind fun name => (variants.ofName? name).bind fun _ =>
      (none : Option α)) = none := by
    simp only [Option.bind_fun_none]
  cases tree with
  | null =>
      cases members with
      | nil => simp [decode?, Tree.unit?]
      | cons => exact nothing.symm
  | bool | number | text | list | object => exact nothing.symm

theorem settles : Settles variants.read variants.decode? where
  blanks cursor := by simp only [read, valueStart_skipBlanks]
  outcome_eq {tree text rest} start spells := by
    have refused := variants.read_opensWith.refuses spells
    cases spells with
    | text pieces =>
        have behind : variants.read ⟨'"' :: (spelling pieces ++ '"' :: rest), start⟩ =
            readQuoted ⟨spelling pieces ++ '"' :: rest, start.after '"'⟩ >>= fun name => do
              let constant ← variants.resolve name.1 name.2
              return (constant, name.2) := rfl
        rw [behind]
        exact outcome_bind (readQuoted_outcome pieces rest _)
          fun name stop => variants.outcome_resolve name ⟨rest, stop⟩
    | @object members text _ inside =>
        rw [read_object]
        cases inside with
        | endObject _ blanks =>
            obtain ⟨stop, moved⟩ := nextName_ends true blanks (start.after '{')
            rw [moved]
            rfl
        | @member _ pieces tree members _ named _ _ _ _ separates beforeColon behindColon first
            later =>
            obtain ⟨opened, moved⟩ := nextName_separates separates (start.after '{')
            rw [moved, decode?_object]
            exact outcome_bind (readQuoted_outcome pieces named opened) fun name stop =>
              variants.outcome_readBehindName name beforeColon behindColon first later stop
    | null | isTrue | isFalse | number | list =>
        exact refused (by simp [Tree.BeginsWith]) start

end Variants

end CodeGraph.Json
