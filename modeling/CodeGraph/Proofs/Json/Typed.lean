import CodeGraph.Json.Record
import CodeGraph.Proofs.Json.RoundTrip
import Mathlib.Data.List.Induction

/-!
# Typed values are read back

`Reads` says that a reader takes a typed value off the text of a JSON value, in whatever order the
members of its objects are written.  There is one lemma for each reader of a type; a record is read
if each of its fields is, `RecordFormat.Fills.reads_ofMembers`.
-/

set_option autoImplicit false

namespace CodeGraph.Json

/-! ## The order of members -/

/-- The second value is the first one with the members of its objects in any order. -/
inductive Value.ReorderedTo : Value → Value → Prop where
  | same (value : Value) : ReorderedTo value value
  | array {items others : List Value} (length : items.length = others.length)
      (each : ∀ pair ∈ items.zip others, ReorderedTo pair.1 pair.2) :
      ReorderedTo (.array items) (.array others)
  | object {members others : List (String × Value)}
      (names : (members.map Prod.fst).Perm (others.map Prod.fst))
      (each : ∀ name first second, (name, first) ∈ members → (name, second) ∈ others →
        ReorderedTo first second) : ReorderedTo (.object members) (.object others)

namespace Value.ReorderedTo

theorem isSolid_eq {value written : Value} (reordered : value.ReorderedTo written) :
    written.isSolid = value.isSolid := by
  cases reordered <;> rfl

/-- An object may be written in the order that its members are listed in. -/
theorem ofMembers {members : List (String × Value)} (distinct : (members.map Prod.fst).Nodup) :
    (Value.ofMembers members).ReorderedTo (.object members) := by
  have perm := KeyMap.perm_ofList distinct
  refine object (perm.map Prod.fst) fun name first second inSorted inMembers => ?_
  have sameValue : some first = some second := by
    rw [← KeyMap.lookup_of_mem distinct (perm.mem_iff.mp inSorted),
      KeyMap.lookup_of_mem distinct inMembers]
  rw [Option.some.inj sameValue]
  exact same second

theorem items_of_array {items : List Value} {written : Value}
    (reordered : (Value.array items).ReorderedTo written) :
    ∃ others, written = .array others ∧ items.length = others.length ∧
      ∀ pair ∈ items.zip others, pair.1.ReorderedTo pair.2 := by
  cases reordered with
  | same =>
      refine ⟨items, rfl, rfl, ?_⟩
      rintro ⟨first, second⟩ member
      obtain ⟨index, isPair⟩ := List.mem_iff_getElem?.mp member
      obtain ⟨isFirst, isSecond⟩ := List.getElem?_zip_eq_some.mp isPair
      rw [Option.some.inj (isFirst.symm.trans isSecond)]
      exact same second
  | @array _ others length each => exact ⟨others, rfl, length, each⟩

theorem members_of_object {members : List (String × Value)} {written : Value}
    (reordered : (Value.object members).ReorderedTo written) :
    ∃ others, written = .object others ∧
      (members.map Prod.fst).Perm (others.map Prod.fst) ∧
      ∀ other ∈ others, ∃ value, (other.1, value) ∈ members ∧ value.ReorderedTo other.2 := by
  cases reordered with
  | same => exact ⟨members, rfl, .refl _, fun other member => ⟨other.2, member, same other.2⟩⟩
  | @object _ others names each =>
      refine ⟨others, rfl, names, fun other inOthers => ?_⟩
      obtain ⟨⟨name, value⟩, inMembers, rfl⟩ :=
        List.mem_map.mp (names.mem_iff.mpr (List.mem_map_of_mem inOthers))
      exact ⟨value, inMembers, each _ _ _ inMembers inOthers⟩

end Value.ReorderedTo

/-- Whatever order the members of a value are written in, the reader takes the content off the
text. -/
def Reads {α : Type} (reader : Reader α) (value : Value) (content : α) : Prop :=
  ∀ written, value.ReorderedTo written → ∀ rest, EndsNumber rest →
    Takes reader written.compact content rest

theorem Reads.readAll {α : Type} {reader : Reader α} {value : Value} {content : α}
    (reads : Reads reader value content) {written : Value} (reordered : value.ReorderedTo written) :
    Json.readAll reader written.compact = .ok content :=
  (reads written reordered [] endsNumber_nil).readAll

/-! ## Scalars -/

theorem valueStart_eq {first : Char} (notBlank : isJsonBlank first = false) (later : List Char)
    (start : Position) : valueStart ⟨first :: later, start⟩ = .ok ⟨first :: later, start⟩ := by
  simp only [valueStart, skipBlanks_eq first notBlank]

theorem reads_text (text : String) : Reads readText (.text text) text := by
  intro written reordered rest ends start
  cases reordered
  obtain ⟨stop, taken⟩ := readQuoted_takes text rest (start.after '"')
  have behind : readText ⟨'"' :: (quoteTail text ++ rest), start⟩ =
      readQuoted ⟨quoteTail text ++ rest, start.after '"'⟩ := rfl
  exact ⟨stop, by rw [Value.compact, quote_eq, List.cons_append, behind, taken]⟩

theorem reads_bool (value : Bool) : Reads readBool (.bool value) value := by
  intro written reordered rest ends start
  cases reordered
  cases value with
  | true =>
      obtain ⟨stop, taken⟩ := readLetters_takes ['r', 'u', 'e'] true rest (start.after 't')
      refine ⟨stop, ?_⟩
      rw [Value.compact]
      exact taken
  | false =>
      obtain ⟨stop, taken⟩ := readLetters_takes ['a', 'l', 's', 'e'] false rest (start.after 'f')
      refine ⟨stop, ?_⟩
      rw [Value.compact]
      exact taken

theorem readBelow_takes {bound number : Nat} (less : number < bound) (fits : number < UInt64.size)
    (expected : String) {rest : List Char} (ends : EndsNumber rest) :
    Takes (readBelow bound expected) (wholeText number) number rest := by
  intro start
  obtain ⟨stop, taken⟩ := readNumber_takes false fits ends start
  obtain ⟨first, later, digits⟩ :=
    List.exists_cons_of_ne_nil (Nat.toDigits_ne_nil (n := number) (b := 10))
  have digit : first.isDigit = true :=
    Nat.isDigit_of_mem_toDigits (b := 10) (n := number) (by omega) (by omega) (by simp [digits])
  obtain ⟨notBlank, _⟩ := isScalarStart_iff.mp (isScalarStart_of_isDigit digit)
  have notSign : first ≠ '-' := ne_of_isDigit digit (by decide)
  have text : wholeText number = Nat.toDigits 10 number := by simp [wholeText]
  refine ⟨stop, ?_⟩
  rw [digits, List.cons_append] at taken
  rw [text, digits, List.cons_append]
  unfold readBelow
  simp only [valueStart_eq notBlank, bind, Except.bind, digit, if_true, taken]
  simp [wholeNumber, less]

theorem reads_word (word : UInt32) : Reads readWord (.ofWord word) word := by
  intro written reordered rest ends start
  cases reordered
  have less : word.toNat < UInt32.size := word.toNat_lt
  have fits : word.toNat < UInt64.size := by
    simp only [UInt32.size, UInt64.size] at less ⊢
    omega
  obtain ⟨stop, taken⟩ := readBelow_takes less fits "u32" ends start
  refine ⟨stop, ?_⟩
  rw [Value.ofWord, Value.compact]
  simp only [readWord, taken, bind, Except.bind, pure, Except.pure, UInt32.ofNat_toNat]

/-- A null is no value; any other text has to begin so that it is not taken for null. -/
theorem reads_option {α : Type} {reader : Reader α} {encode : α → Value}
    (reads : ∀ content, Reads reader (encode content) content)
    (solid : ∀ content, (encode content).isSolid = true) (value : Option α) :
    Reads (readOption reader) (value.elim .null encode) value := by
  intro written reordered rest ends start
  cases value with
  | none =>
      cases reordered
      obtain ⟨stop, taken⟩ := readLetters_takes ['u', 'l', 'l'] none rest (start.after 'n')
      refine ⟨stop, ?_⟩
      rw [Option.elim_none, Value.compact]
      exact taken
  | some content =>
      obtain ⟨stop, taken⟩ := reads content written reordered rest ends start
      obtain ⟨first, later, parts, notBlank, _, notNull⟩ :=
        Value.opensSolid_compact (reordered.isSolid_eq.trans (solid content))
      refine ⟨stop, ?_⟩
      rw [parts, List.cons_append] at taken ⊢
      simp only [readOption, skipBlanks_eq first notBlank]
      split
      case h_1 isNull => exact absurd (List.cons.inj isNull).1 notNull
      case h_2 =>
        rw [taken]
        rfl

theorem reads_constant {α : Type} {variants : Variants α} {name : String} {constant : α}
    (listed : variants.table.lookup name = some constant) :
    Reads variants.read (.text name) constant := by
  intro written reordered rest ends start
  cases reordered
  obtain ⟨stop, taken⟩ := readQuoted_takes name rest (start.after '"')
  have behind : variants.read ⟨'"' :: (quoteTail name ++ rest), start⟩ = do
      let name ← readQuoted ⟨quoteTail name ++ rest, start.after '"'⟩
      let constant ← variants.resolve name.1 name.2
      return (constant, name.2) := rfl
  refine ⟨stop, ?_⟩
  rw [Value.compact, quote_eq, List.cons_append, behind, taken]
  simp only [bind, Except.bind, Variants.resolve, listed]
  rfl

/-! ## Lists and maps -/

theorem reads_list {α : Type} {item : Reader α} {encode : α → Value}
    (reads : ∀ content, Reads item (encode content) content)
    (solid : ∀ content, (encode content).isSolid = true) (contents : List α) :
    Reads (readList item) (.array (contents.map encode)) contents := by
  intro written reordered rest ends start
  obtain ⟨others, rfl, length, each⟩ := reordered.items_of_array
  rw [List.length_map] at length
  -- every item is read from the text at its place
  let placed := contents.zip others
  have contentsEq : placed.map Prod.fst = contents := List.map_fst_zip (Nat.le_of_eq length)
  have othersEq : placed.map Prod.snd = others := List.map_snd_zip (Nat.le_of_eq length.symm)
  have written : ∀ one ∈ placed, (encode one.1).ReorderedTo one.2 := by
    intro one member
    have inZip : (encode one.1, one.2) ∈ (contents.map encode).zip others := by
      rw [List.zip_map_left]
      exact List.mem_map.mpr ⟨one, member, rfl⟩
    exact each _ inZip
  have opens : ∀ one ∈ placed, Opens one.2.compact := fun one member =>
    (Value.opensSolid_compact ((written one member).isSolid_eq.trans (solid one.1))).opens
  have takes : ∀ one ∈ placed, ∀ rest, EndsNumber rest → Takes item one.2.compact one.1 rest :=
    fun one member => reads one.1 one.2 (written one member)
  let body := separated true (placed.map fun one => one.2.compact)
  have long : placed.length < ('[' :: (body ++ ']' :: rest)).length :=
    Nat.lt_succ_of_lt (length_lt_rounds (fun one member => (opens one member).ne_nil) _ _)
  obtain ⟨stop, taken⟩ := readItems_takes opens takes long true rest (start.after '[')
  have text : (Value.array others).compact ++ rest = '[' :: (body ++ ']' :: rest) := by
    rw [compact_array_append, ← othersEq, List.map_map]
    rfl
  have behind : readList item ⟨'[' :: (body ++ ']' :: rest), start⟩ = do
      let items ← readItems item ('[' :: (body ++ ']' :: rest)) true
        ⟨body ++ ']' :: rest, start.after '['⟩
      let cursor ← closeList items.2
      return (items.1, cursor) := rfl
  refine ⟨stop.after ']', ?_⟩
  rw [text, behind, taken, contentsEq]
  simp only [bind, Except.bind, closeList_eq]
  rfl

/-- The values that a map finds under the names of a list, put into a map. -/
theorem get?_foldl_insert {α : Type} (map collected : KeyMap α) (names : List String)
    (name : String) :
    (names.foldl (fun state other => (map.get? other).elim state (state.insert other))
        collected).get? name =
      if name ∈ names then (map.get? name).or (collected.get? name) else collected.get? name := by
  induction names generalizing collected with
  | nil => simp
  | cons first later inductionHypothesis =>
      rw [List.foldl_cons, inductionHypothesis]
      by_cases isFirst : name = first
      · subst isFirst
        cases found : map.get? name with
        | none => simp
        | some value => simp [KeyMap.get?_insert]
      · cases found : map.get? first with
        | none => simp [isFirst]
        | some value => simp [isFirst, KeyMap.get?_insert]

/-- A map is put together from what it finds, in whatever order its names come. -/
theorem foldl_insert_eq {α : Type} {map : KeyMap α} {names : List String}
    (sameNames : ∀ name, name ∈ names ↔ name ∈ map.keys) :
    names.foldl (fun state other => (map.get? other).elim state (state.insert other)) .empty =
      map := by
  apply KeyMap.ext_get?
  intro name
  rw [get?_foldl_insert, KeyMap.get?_empty, Option.or_none]
  split
  case isTrue => rfl
  case isFalse absent =>
    rw [sameNames, KeyMap.mem_keys, KeyMap.contains, Option.not_isSome_iff_eq_none] at absent
    exact absent.symm

theorem reads_map {α : Type} {item : Reader α} {encode : α → Value}
    (reads : ∀ content, Reads item (encode content) content) (map : KeyMap α) :
    Reads (readMap item) (.object (map.entries.map fun entry => (entry.1, encode entry.2)))
      map := by
  intro written reordered rest ends start
  obtain ⟨others, rfl, names, each⟩ := reordered.members_of_object
  let member : KeyMap α → String → Reader (KeyMap α) := fun state name =>
    readBehindColon item (state.insert name)
  let step : KeyMap α → String × Value → KeyMap α :=
    fun state other => (map.get? other.1).elim state (state.insert other.1)
  have memberTakes : ∀ before other after, others = before ++ other :: after →
      ∀ rest, EndsNumber rest →
        Takes (member (before.foldl step .empty) other.1) (':' :: other.2.compact)
          (step (before.foldl step .empty) other) rest := by
    intro before other after parts rest ends
    obtain ⟨value, inObject, reordered⟩ := each other (by simp [parts])
    obtain ⟨⟨name, content⟩, inMap, isMember⟩ := List.mem_map.mp inObject
    cases isMember
    have found : map.get? other.1 = some content := KeyMap.get?_eq_some_iff.mpr inMap
    simp only [step, found, Option.elim_some]
    exact readBehindColon_takes (reads content other.2 reordered rest ends) _
  let body := separated true (others.map (memberText Value.compact))
  have long : others.length < ('{' :: (body ++ '}' :: rest)).length :=
    Nat.lt_succ_of_lt (length_lt_rounds (fun other _ => memberText_ne_nil Value.compact other) _ _)
  obtain ⟨stop, taken⟩ := readMembers_takes memberTakes long true rest (start.after '{')
  have behind : readMap item ⟨'{' :: (body ++ '}' :: rest), start⟩ = do
      let map ← readMembers member ('{' :: (body ++ '}' :: rest)) true .empty
        ⟨body ++ '}' :: rest, start.after '{'⟩
      return (map.1, map.2.next) := rfl
  have sameNames : ∀ name, name ∈ others.map Prod.fst ↔ name ∈ map.keys := by
    intro name
    rw [← names.mem_iff, List.map_map]
    rfl
  have collected : others.foldl step .empty = map := by
    rw [← foldl_insert_eq sameNames, List.foldl_map]
  refine ⟨stop.after '}', ?_⟩
  rw [compact_object_append, behind, taken, collected]
  rfl

/-! ## Records -/

namespace Field

variable {α ρ : Type} {reader : Reader α} {record filled : ρ} {value : Value}

theorem reads_into {content : α} (reads : Reads reader value content) {set : ρ → α → ρ}
    (isSet : set record content = filled) : Reads (into reader set record) value filled := by
  intro written reordered rest ends start
  obtain ⟨stop, taken⟩ := reads written reordered rest ends start
  refine ⟨stop, ?_⟩
  simp only [into, taken, bind, Except.bind, isSet]
  rfl

theorem reads_mandatory (name : String) {content : α} (reads : Reads reader value content)
    {set : ρ → α → ρ} (isSet : set record content = filled) :
    Reads ((mandatory name reader set).read record) value filled :=
  reads_into reads isSet

theorem reads_omittable (name : String) {content : α} (reads : Reads reader value content)
    {set : ρ → α → ρ} (isSet : set record content = filled) :
    Reads ((omittable name reader set).read record) value filled :=
  reads_into reads isSet

theorem reads_defaulted (name : String) {content : Option α}
    (reads : Reads (readOption reader) value content) {set : ρ → Option α → ρ}
    (isSet : set record content = filled) :
    Reads ((defaulted name reader set).read record) value filled :=
  reads_into reads isSet

theorem reads_optional (name : String) {content : Option α}
    (reads : Reads (readOption reader) value content) {set : ρ → Option α → ρ}
    (isSet : set record content = filled) :
    Reads ((optional name reader set).read record) value filled :=
  reads_into reads isSet

end Field

namespace RecordFormat

variable {ρ : Type}

/-- The members hold the fields of a record: `only names` is the record that has got those of the
names, and stands for what is read when the members of these names have come. -/
structure Fills (format : RecordFormat ρ) (members : List (String × Value))
    (only : List String → ρ) (record : ρ) : Prop where
  distinct : (members.map Prod.fst).Nodup
  blank : only [] = format.blank
  reads : ∀ member ∈ members, ∃ field,
    format.fields.find? (fun field => field.name = member.1) = some field ∧
      ∀ names, Reads (field.read (only names)) member.2 (only (member.1 :: names))
  required : ∀ field ∈ format.fields, field.required = true → field.name ∈ members.map Prod.fst
  whole : ∀ names, (∀ name, name ∈ names ↔ name ∈ members.map Prod.fst) → only names = record

variable {format : RecordFormat ρ} {members : List (String × Value)} {only : List String → ρ}
  {record : ρ}

theorem Fills.readMember_takes (fills : format.Fills members only record) {names : List String}
    {other : String × Value} (isNew : other.1 ∉ names) {value : Value}
    (listed : (other.1, value) ∈ members) (reordered : value.ReorderedTo other.2)
    {rest : List Char} (ends : EndsNumber rest) :
    Takes (format.readMember (names, only names) other.1) (':' :: other.2.compact)
      (other.1 :: names, only (other.1 :: names)) rest := by
  obtain ⟨field, isField, reads⟩ := fills.reads _ listed
  have notSeen : names.contains other.1 = false := by simpa using isNew
  have taken := readBehindColon_takes (reads names other.2 reordered rest ends)
    fun record => (other.1 :: names, record)
  intro start
  simp only [readMember, isField, notSeen, Bool.false_eq_true, if_false]
  exact taken start

def collect (only : List String → ρ) (state : List String × ρ) (other : String × Value) :
    List String × ρ :=
  (other.1 :: state.1, only (other.1 :: state.1))

theorem Fills.foldl_collect (fills : format.Fills members only record)
    (before : List (String × Value)) :
    before.foldl (collect only) ([], format.blank) =
      ((before.map Prod.fst).reverse, only (before.map Prod.fst).reverse) := by
  induction before using List.reverseRecOn with
  | nil => simp [fills.blank]
  | append_singleton before other inductionHypothesis =>
      rw [List.foldl_append, inductionHypothesis]
      simp [collect]

theorem Fills.firstMissing?_eq_none (fills : format.Fills members only record)
    {names : List String} (present : ∀ name, name ∈ names ↔ name ∈ members.map Prod.fst) :
    format.firstMissing? names = none := by
  rw [firstMissing?, Option.map_eq_none_iff, List.find?_eq_none]
  intro field isField missing
  obtain ⟨isRequired, absent⟩ := Bool.and_eq_true_iff.mp missing
  have isThere := (present field.name).mpr (fills.required field isField isRequired)
  simp [isThere] at absent

/-- A record is read from the members that hold its fields, in whatever order they stand. -/
theorem Fills.reads_ofMembers (fills : format.Fills members only record) :
    Reads format.read (.ofMembers members) record := by
  intro written reordered rest ends start
  obtain ⟨others, rfl, names, each⟩ := reordered.members_of_object
  have perm : (members.map Prod.fst).Perm (others.map Prod.fst) :=
    ((KeyMap.perm_ofList fills.distinct).map Prod.fst).symm.trans names
  have listed : ∀ other ∈ others, ∃ value, (other.1, value) ∈ members ∧
      value.ReorderedTo other.2 := by
    intro other member
    obtain ⟨value, inObject, reordered⟩ := each other member
    exact ⟨value, (KeyMap.perm_ofList fills.distinct).mem_iff.mp inObject, reordered⟩
  -- so no name comes again, which would be refused
  have distinct : (others.map Prod.fst).Nodup := perm.nodup_iff.mp fills.distinct
  have memberTakes : ∀ before other after, others = before ++ other :: after →
      ∀ rest, EndsNumber rest →
        Takes (format.readMember (before.foldl (collect only) ([], format.blank)) other.1)
          (':' :: other.2.compact)
          (collect only (before.foldl (collect only) ([], format.blank)) other) rest := by
    intro before other after parts rest ends
    obtain ⟨value, inMembers, reordered⟩ := listed other (by simp [parts])
    have isNew : other.1 ∉ (before.map Prod.fst).reverse := by
      rw [parts, List.map_append, List.map_cons] at distinct
      intro inBefore
      exact (List.nodup_append.mp distinct).2.2 _ (List.mem_reverse.mp inBefore) _
        List.mem_cons_self rfl
    rw [fills.foldl_collect]
    exact fills.readMember_takes isNew inMembers reordered ends
  let body := separated true (others.map (memberText Value.compact))
  have long : others.length < (body ++ '}' :: rest).length :=
    length_lt_rounds (fun other _ => memberText_ne_nil Value.compact other) _ _
  obtain ⟨stop, taken⟩ := readMembers_takes memberTakes long true rest (start.after '{')
  have behind : format.read ⟨'{' :: (body ++ '}' :: rest), start⟩ =
      format.readObject ⟨body ++ '}' :: rest, start.after '{'⟩ := rfl
  have present : ∀ name, name ∈ (others.map Prod.fst).reverse ↔ name ∈ members.map Prod.fst := by
    intro name
    rw [List.mem_reverse, perm.mem_iff]
  refine ⟨stop.after '}', ?_⟩
  rw [compact_object_append, behind, readObject, taken, fills.foldl_collect,
    fills.whole _ present]
  simp only [bind, Except.bind, fills.firstMissing?_eq_none present]
  rfl

end RecordFormat

end CodeGraph.Json
