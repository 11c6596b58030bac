import CodeGraph.Proofs.Json.Slots
import Mathlib.Data.List.Pairwise
import Mathlib.Logic.Relation

/-!
# What decoding does not depend on

A shape says how the values of a type are written.  `Shape.Indifferent` lists the changes of a
value, at any place inside, that make no difference to what it decodes as: `Shape.Alike` values
differ by such changes only.  `Shape.Refused` lists what is decoded as nothing.  The reader of a
type is described by its shape if it keeps to both, and there is one lemma for each way to build a
reader.
-/

set_option autoImplicit false

namespace CodeGraph.Json

/-- How the values of a type are written. -/
inductive Shape where
  | text
  | word
  /-- One of the names, of which one stands for every other text. -/
  | constant (names : List String) (other : String)
  | nullable (content : Shape)
  | list (item : Shape)
  | map (entry : Shape)
  | record (fields : List (String × Shape))

namespace Shape

/-- What a field may hold in place of being missing: null where that is allowed, and no items. -/
inductive Idle : Shape → Tree → Prop where
  | null (content : Shape) : Idle (.nullable content) .null
  | empty (item : Shape) : Idle (.list item) (.list [])

/-- Whether a member is kept when those of unknown names go. -/
def keeps (names : List String) (member : Option String × Tree) : Bool :=
  member.1.all (names.contains ·)

/-- A change of a value that makes no difference to what it decodes as. -/
inductive Indifferent : Shape → Tree → Tree → Prop where
  /-- A name outside the table is as good as the one that stands for all others. -/
  | unknownName {names : List String} {name : String} (other : String) (unknown : name ∉ names) :
      Indifferent (.constant names other) (.text (some name)) (.text (some other))
  /-- Members of unknown names may go, and the rest may stand in any order. -/
  | members {fields : List (String × Shape)} {members others : List (Option String × Tree)}
      (once : Once (fields.map Prod.fst) members)
      (rest : (members.filter (keeps (fields.map Prod.fst))).Perm others) :
      Indifferent (.record fields) (.object members) (.object others)
  | missing {fields : List (String × Shape)} {name : String} {shape : Shape} {idle : Tree}
      {members : List (Option String × Tree)} (listed : (name, shape) ∈ fields)
      (isIdle : shape.Idle idle) (absent : some name ∉ members.map Prod.fst) :
      Indifferent (.record fields) (.object ((some name, idle) :: members)) (.object members)
  /-- Such a change may be made at every place inside. -/
  | content {content : Shape} {first second : Tree} (change : Indifferent content first second) :
      Indifferent (.nullable content) first second
  | item {item : Shape} {first second : Tree} (before after : List Tree)
      (change : Indifferent item first second) :
      Indifferent (.list item) (.list (before ++ first :: after))
        (.list (before ++ second :: after))
  | entry {entry : Shape} {first second : Tree} (name : Option String)
      (before after : List (Option String × Tree)) (change : Indifferent entry first second) :
      Indifferent (.map entry) (.object (before ++ (name, first) :: after))
        (.object (before ++ (name, second) :: after))
  | member {fields : List (String × Shape)} {name : String} {shape : Shape} {first second : Tree}
      (before after : List (Option String × Tree)) (listed : (name, shape) ∈ fields)
      (change : Indifferent shape first second) :
      Indifferent (.record fields) (.object (before ++ (some name, first) :: after))
        (.object (before ++ (some name, second) :: after))
  | position {fields : List (String × Shape)} {field : String × Shape} {first second : Tree}
      (before after : List Tree) (placed : fields[before.length]? = some field)
      (change : Indifferent field.2 first second) :
      Indifferent (.record fields) (.list (before ++ first :: after))
        (.list (before ++ second :: after))

def Alike (shape : Shape) : Tree → Tree → Prop :=
  Relation.EqvGen shape.Indifferent

/-- What is decoded as nothing. -/
inductive Refused : Shape → Tree → Prop where
  | outOfRange {numeral : Numeral} (outside : ¬numeral.IsBelow UInt32.size) :
      Refused .word (.number numeral)
  | nullList (item : Shape) : Refused (.list item) .null
  | twice {fields : List (String × Shape)} {members : List (Option String × Tree)}
      (again : ¬Once (fields.map Prod.fst) members) : Refused (.record fields) (.object members)
  /-- Nothing comes of a value either that has such a value inside. -/
  | content {content : Shape} {tree : Tree} (notNull : tree ≠ .null)
      (refused : Refused content tree) : Refused (.nullable content) tree
  | item {item : Shape} {tree : Tree} {trees : List Tree} (inside : tree ∈ trees)
      (refused : Refused item tree) : Refused (.list item) (.list trees)
  | entry {entry : Shape} {name : Option String} {tree : Tree}
      {members : List (Option String × Tree)} (inside : (name, tree) ∈ members)
      (refused : Refused entry tree) : Refused (.map entry) (.object members)
  | member {fields : List (String × Shape)} {name : String} {shape : Shape} {tree : Tree}
      {members : List (Option String × Tree)} (listed : (name, shape) ∈ fields)
      (inside : (some name, tree) ∈ members) (refused : Refused shape tree) :
      Refused (.record fields) (.object members)
  | position {fields : List (String × Shape)} {field : String × Shape} {tree : Tree}
      {trees : List Tree} {index : Nat} (placed : fields[index]? = some field)
      (inside : trees[index]? = some tree) (refused : Refused field.2 tree) :
      Refused (.record fields) (.list trees)

theorem Indifferent.ne_null {shape : Shape} {first second : Tree}
    (change : shape.Indifferent first second) : first ≠ .null ∧ second ≠ .null := by
  induction change with
  | content change inductionHypothesis => exact inductionHypothesis
  | unknownName | members | missing | item | entry | member | position => exact ⟨nofun, nofun⟩

end Shape

/-- A function of values that does not depend on what is indifferent to a shape, and gives nothing
where the shape is refused. -/
structure Shape.Rules {β : Type} (shape : Shape) (decode : Tree → Option β) : Prop where
  indifferent : ∀ {first second}, shape.Indifferent first second → decode first = decode second
  refused : ∀ {tree}, shape.Refused tree → decode tree = none

variable {α β ρ : Type}

theorem lookup_eq_none {table : List (String × α)} {name : String}
    (unknown : name ∉ table.map Prod.fst) : table.lookup name = none := by
  rw [List.lookup_eq_none_iff]
  intro entry isEntry
  have notName : name ≠ entry.1 := by
    rintro rfl
    exact unknown (List.mem_map_of_mem isEntry)
  simpa using notName

theorem mapM_eq_none {decode : Tree → Option α} {tree : Tree} {trees : List Tree}
    (inside : tree ∈ trees) (isNone : decode tree = none) : trees.mapM decode = none := by
  induction trees with
  | nil => cases inside
  | cons first later inductionHypothesis =>
      rw [mapM_cons_eq_bind]
      rcases List.mem_cons.mp inside with rfl | inLater
      · rw [isNone]
        rfl
      · rw [inductionHypothesis inLater]
        simp

theorem collect?_cons {σ : Type} (take : σ → String → Tree → Option σ) (state : σ)
    (member : Option String × Tree) (members : List (Option String × Tree)) :
    collect? take state (member :: members) =
      (member.1.bind fun name => take state name member.2).bind fun state =>
        collect? take state members := rfl

theorem collect?_eq_none {σ : Type} {take : σ → String → Tree → Option σ}
    {label : Option String} {tree : Tree} {members : List (Option String × Tree)}
    (inside : (label, tree) ∈ members)
    (isNone : ∀ state name, label = some name → take state name tree = none) (state : σ) :
    collect? take state members = none := by
  induction members generalizing state with
  | nil => cases inside
  | cons first later inductionHypothesis =>
      rw [collect?_cons]
      rcases List.mem_cons.mp inside with rfl | inLater
      · cases label with
        | none => rfl
        | some name => rw [Option.bind_some, isNone state name rfl, Option.bind_none]
      · simp only [inductionHypothesis inLater, Option.bind_fun_none]

namespace Shape.Rules

theorem alike {shape : Shape} {decode : Tree → Option α} (rules : shape.Rules decode)
    {first second : Tree} (alike : shape.Alike first second) : decode first = decode second := by
  induction alike with
  | rel first second change => exact rules.indifferent change
  | refl tree => rfl
  | symm first second _ inductionHypothesis => exact inductionHypothesis.symm
  | trans first second third _ _ firstHypothesis secondHypothesis =>
      exact firstHypothesis.trans secondHypothesis

theorem map {shape : Shape} {decode : Tree → Option α} (rules : shape.Rules decode) (f : α → β) :
    shape.Rules fun tree => (decode tree).map f where
  indifferent change := congrArg (Option.map f) (rules.indifferent change)
  refused refused := congrArg (Option.map f) (rules.refused refused)

theorem text : Shape.text.Rules Tree.text? where
  indifferent change := nomatch change
  refused refused := nomatch refused

theorem word : Shape.word.Rules Tree.word? where
  indifferent change := nomatch change
  refused refused := by
    cases refused with
    | outOfRange outside => exact if_neg outside

theorem constant (variants : Variants α) {names : List String} {other : String} {constant : α}
    (table : variants.table.map Prod.fst = names)
    (isOther : variants.table.lookup other = some constant)
    (stands : variants.other? = some constant) :
    (Shape.constant names other).Rules variants.decode? where
  indifferent change := by
    cases change with
    | @unknownName _ name _ unknown =>
        simp only [Variants.decode?, Option.bind_some, Variants.ofName?,
          lookup_eq_none (table ▸ unknown), stands, isOther, Option.none_or, Option.some_or]
  refused refused := nomatch refused

theorem nullable {content : Shape} {decode : Tree → Option α} (rules : content.Rules decode) :
    (Shape.nullable content).Rules (orNull? decode) where
  indifferent change := by
    cases change with
    | content change =>
        rw [orNull?_of_ne change.ne_null.1, orNull?_of_ne change.ne_null.2,
          rules.indifferent change]
  refused refused := by
    cases refused with
    | content notNull refused => rw [orNull?_of_ne notNull, rules.refused refused]; rfl

theorem list {item : Shape} {decode : Tree → Option α} (rules : item.Rules decode) :
    (Shape.list item).Rules (listOf? decode) where
  indifferent change := by
    cases change with
    | item before after change =>
        simp only [listOf?, List.mapM_append, List.mapM_cons, rules.indifferent change]
  refused refused := by
    cases refused with
    | nullList => rfl
    | item inside refused => exact mapM_eq_none inside (rules.refused refused)

theorem keyMap {entry : Shape} {decode : Tree → Option α} (rules : entry.Rules decode) :
    (Shape.map entry).Rules (mapOf? decode) where
  indifferent change := by
    cases change with
    | entry name before after change =>
        simp only [mapOf?, collect?, List.foldlM_append, List.foldlM_cons, rules.indifferent change]
  refused refused := by
    cases refused with
    | entry inside refused =>
        rw [mapOf?]
        apply collect?_eq_none inside
        intro map name _
        rw [rules.refused refused]
        rfl

end Shape.Rules

/-! ## Records -/

namespace Slot

/-- The slot keeps to the shape of its field, and leaves the blank record as it is where the field
may as well be missing. -/
structure Suits (blank : ρ) (slot : Slot ρ) (field : String × Shape) : Prop where
  name : slot.name = field.1
  rules : field.2.Rules slot.fill?
  idle : ∀ {tree}, field.2.Idle tree → (slot.fill? tree).map (· blank) = some blank

/-- Two slots of different names that may be filled in any order. -/
structure Apart (slot other : Slot ρ) : Prop where
  distinct : slot.name ≠ other.name
  commute : ∀ first second record,
    ((slot.fill? first).map (· record)).bind (fun filled => (other.fill? second).map (· filled)) =
      ((other.fill? second).map (· record)).bind fun filled => (slot.fill? first).map (· filled)

instance : Std.Symm (@Apart ρ) :=
  ⟨fun _ _ apart =>
    ⟨apart.distinct.symm, fun first second record => (apart.commute second first record).symm⟩⟩

theorem apart_into {name other : String} (distinct : name ≠ other) {decode : Tree → Option α}
    {otherDecode : Tree → Option β} {set : ρ → α → ρ} {otherSet : ρ → β → ρ}
    (commute : ∀ record content value,
      otherSet (set record content) value = set (otherSet record value) content) :
    (into name decode set).Apart (into other otherDecode otherSet) := by
  refine ⟨distinct, fun first second record => ?_⟩
  rw [map_fill?_into, map_fill?_into]
  cases isFirst : decode first with
  | none => simp [into, isFirst]
  | some content =>
      cases isSecond : otherDecode second with
      | none => simp [into, isSecond]
      | some value => simp [into, isFirst, isSecond, commute]

end Slot

theorem known_perm {names : List String} {members others : List (Option String × Tree)}
    (perm : members.Perm others) : (known names members).Perm (known names others) :=
  (perm.filterMap _).filter _

theorem Once.perm {names : List String} {members others : List (Option String × Tree)}
    (once : Once names members) (perm : members.Perm others) : Once names others :=
  (known_perm perm).nodup_iff.mp once

theorem Once.of_cons {names : List String} {member : Option String × Tree}
    {members : List (Option String × Tree)} (once : Once names (member :: members)) :
    Once names members :=
  List.Nodup.sublist (((List.sublist_cons_self member members).filterMap _).filter _) once

/-- Which names are known and how often they come depends on the kept members only. -/
theorem known_filter_keeps (names : List String) (members : List (Option String × Tree)) :
    known names (members.filter (Shape.keeps names)) = known names members := by
  induction members with
  | nil => rfl
  | cons member members inductionHypothesis =>
      obtain ⟨label, tree⟩ := member
      cases label with
      | none => exact inductionHypothesis
      | some name =>
          by_cases isKnown : name ∈ names
          · have kept : Shape.keeps names (some name, tree) = true := by
              simp [Shape.keeps, isKnown]
            rw [List.filter_cons_of_pos kept, known_cons_of_mem isKnown, known_cons_of_mem isKnown,
              inductionHypothesis]
          · have gone : ¬Shape.keeps names (some name, tree) = true := by
              simp [Shape.keeps, isKnown]
            rw [List.filter_cons_of_neg gone, known_cons_of_not_mem isKnown, inductionHypothesis]

section Slots

variable {slots : List (Slot ρ)}

theorem fillNamed?_of_not_mem {name : String} (unknown : name ∉ slots.map Slot.name) (record : ρ)
    (tree : Tree) : fillNamed? slots record name tree = some record := by
  simp only [fillNamed?, find?_eq_none_iff_not_mem.mpr unknown]

theorem collect?_filter_keeps (record : ρ) (members : List (Option String × Tree)) :
    collect? (fillNamed? slots) record (members.filter (Shape.keeps (slots.map Slot.name))) =
      collect? (fillNamed? slots) record members := by
  induction members generalizing record with
  | nil => rfl
  | cons member members inductionHypothesis =>
      by_cases kept : Shape.keeps (slots.map Slot.name) member = true
      · rw [List.filter_cons_of_pos kept, collect?_cons, collect?_cons]
        simp only [inductionHypothesis]
      · obtain ⟨label, tree⟩ := member
        rw [List.filter_cons_of_neg kept, inductionHypothesis, collect?_cons]
        cases label with
        | none => exact absurd rfl kept
        | some name =>
            have unknown : name ∉ slots.map Slot.name := by
              intro isKnown
              exact kept (by simpa [Shape.keeps] using isKnown)
            simp only [Option.bind_some, fillNamed?_of_not_mem unknown]

/-- Members of different names may be taken in any order. -/
theorem fillNamed?_comm (apart : slots.Pairwise Slot.Apart) {name other : String}
    (distinct : name ∈ slots.map Slot.name → name ≠ other) (first second : Tree) (record : ρ) :
    (fillNamed? slots record name first).bind (fun filled => fillNamed? slots filled other second) =
      (fillNamed? slots record other second).bind fun filled =>
        fillNamed? slots filled name first := by
  unfold fillNamed?
  cases isSlot : slots.find? fun slot => slot.name = name with
  | none => simp
  | some slot =>
      cases isOther : slots.find? fun slot => slot.name = other with
      | none => simp
      | some otherSlot =>
          have isName : slot.name = name := by simpa using List.find?_some isSlot
          have isOtherName : otherSlot.name = other := by simpa using List.find?_some isOther
          have inSlots := List.mem_of_find?_eq_some isSlot
          have notSame : slot ≠ otherSlot := by
            rintro rfl
            exact distinct (List.mem_map.mpr ⟨slot, inSlots, isName⟩)
              (isName.symm.trans isOtherName)
          have separate := apart.forall inSlots (List.mem_of_find?_eq_some isOther) notSame
          exact separate.commute first second record

theorem collect?_perm (apart : slots.Pairwise Slot.Apart)
    {members others : List (Option String × Tree)} (perm : members.Perm others)
    (once : Once (slots.map Slot.name) members) (record : ρ) :
    collect? (fillNamed? slots) record members = collect? (fillNamed? slots) record others := by
  induction perm generalizing record with
  | nil => rfl
  | cons member perm inductionHypothesis =>
      rw [collect?_cons, collect?_cons]
      simp only [inductionHypothesis once.of_cons]
  | swap first second members =>
      obtain ⟨firstLabel, firstTree⟩ := first
      obtain ⟨secondLabel, secondTree⟩ := second
      simp only [collect?_cons, ← Option.bind_assoc]
      congr 1
      cases firstLabel with
      | none => cases secondLabel <;> simp
      | some name =>
          cases secondLabel with
          | none => simp
          | some other =>
              have distinct : other ∈ slots.map Slot.name → other ≠ name := by
                rintro isKnown rfl
                rw [once_cons_of_mem isKnown, known_cons_of_mem isKnown] at once
                exact once.1 List.mem_cons_self
              exact fillNamed?_comm apart distinct secondTree firstTree record
  | trans perm later firstHypothesis secondHypothesis =>
      exact (firstHypothesis once record).trans (secondHypothesis (once.perm perm) record)

variable {blank : ρ} {fields : List (String × Shape)}

theorem map_name_eq (suits : List.Forall₂ (Slot.Suits blank) slots fields) :
    slots.map Slot.name = fields.map Prod.fst := by
  induction suits with
  | nil => rfl
  | cons first later inductionHypothesis =>
      rw [List.map_cons, List.map_cons, first.name, inductionHypothesis]

theorem exists_slot (suits : List.Forall₂ (Slot.Suits blank) slots fields)
    (apart : slots.Pairwise Slot.Apart) {name : String} {shape : Shape}
    (listed : (name, shape) ∈ fields) :
    ∃ slot, (slots.find? fun slot => slot.name = name) = some slot ∧
      slot.Suits blank (name, shape) := by
  induction suits with
  | nil => cases listed
  | @cons slot field slots fields first later inductionHypothesis =>
      rw [List.pairwise_cons] at apart
      rcases List.mem_cons.mp listed with isFirst | inLater
      · refine ⟨slot, ?_, isFirst ▸ first⟩
        have isName : slot.name = name := by rw [first.name, ← isFirst]
        rw [List.find?_cons_of_pos (by simpa using isName)]
      · obtain ⟨found, isFound, foundSuits⟩ := inductionHypothesis apart.2 inLater
        have notName : slot.name ≠ name := by
          have isFoundName : found.name = name := foundSuits.name
          rw [← isFoundName]
          exact (apart.1 found (List.mem_of_find?_eq_some isFound)).distinct
        refine ⟨found, ?_, foundSuits⟩
        rw [List.find?_cons_of_neg (by simpa using notName), isFound]

theorem exists_slot_at (suits : List.Forall₂ (Slot.Suits blank) slots fields) {index : Nat}
    {field : String × Shape} (placed : fields[index]? = some field) :
    ∃ slot, slots[index]? = some slot ∧ slot.Suits blank field := by
  induction suits generalizing index with
  | nil => simp at placed
  | cons first later inductionHypothesis =>
      cases index with
      | zero =>
          obtain rfl : _ = field := Option.some.inj placed
          exact ⟨_, rfl, first⟩
      | succ index => exact inductionHypothesis placed

theorem fillAll?_replace {slot : Slot ρ} {before after : List Tree} {first second : Tree}
    (placed : slots[before.length]? = some slot) (same : slot.fill? first = slot.fill? second)
    (record : ρ) :
    fillAll? slots (before ++ first :: after) record =
      fillAll? slots (before ++ second :: after) record := by
  induction before generalizing slots record with
  | nil =>
      cases slots with
      | nil => cases placed
      | cons head later =>
          obtain rfl : head = slot := Option.some.inj placed
          simp only [List.nil_append, fillAll?, same]
  | cons tree before inductionHypothesis =>
      cases slots with
      | nil => cases placed
      | cons head later =>
          simp only [List.cons_append, fillAll?]
          congr 1
          funext update
          exact inductionHypothesis placed (update record)

theorem fillAll?_eq_none {slot : Slot ρ} {trees : List Tree} {tree : Tree} {index : Nat}
    (placed : slots[index]? = some slot) (inside : trees[index]? = some tree)
    (isNone : slot.fill? tree = none) (record : ρ) : fillAll? slots trees record = none := by
  induction index generalizing slots trees record with
  | zero =>
      cases slots with
      | nil => cases placed
      | cons head later =>
          cases trees with
          | nil => cases inside
          | cons first rest =>
              obtain rfl : head = slot := Option.some.inj placed
              obtain rfl : first = tree := Option.some.inj inside
              rw [fillAll?, isNone]
              rfl
  | succ index inductionHypothesis =>
      cases slots with
      | nil => cases placed
      | cons head later =>
          cases trees with
          | nil => cases inside
          | cons first rest =>
              rw [fillAll?]
              simp only [inductionHypothesis placed inside, Option.bind_fun_none]

theorem fillNamed?_of_find? {slot : Slot ρ} {name : String}
    (isSlot : (slots.find? fun slot => slot.name = name) = some slot) (record : ρ) (tree : Tree) :
    fillNamed? slots record name tree = (slot.fill? tree).map (· record) := by
  simp only [fillNamed?, isSlot]

theorem Shape.Rules.record (suits : List.Forall₂ (Slot.Suits blank) slots fields)
    (apart : slots.Pairwise Slot.Apart) :
    (Shape.record fields).Rules (recordOf? blank slots) where
  indifferent change := by
    have names := map_name_eq suits
    cases change with
    | members once rest =>
        rw [← names] at once rest
        have onceKept := once
        rw [Once, ← known_filter_keeps] at onceKept
        rw [recordOf?, recordOf?, if_pos once, if_pos (Once.perm onceKept rest),
          ← collect?_filter_keeps, collect?_perm apart rest onceKept]
    | @missing _ name shape idle members listed isIdle absent =>
        obtain ⟨slot, isSlot, slotSuits⟩ := exists_slot suits apart listed
        have isKnown : name ∈ slots.map Slot.name := names ▸ List.mem_map_of_mem listed
        have notAgain : name ∉ known (slots.map Slot.name) members := by
          intro again
          obtain ⟨member, inMembers, isName⟩ :=
            List.mem_filterMap.mp (List.mem_filter.mp again).1
          exact absent (isName ▸ List.mem_map_of_mem inMembers)
        have idles : fillNamed? slots blank name idle = some blank := by
          rw [fillNamed?_of_find? isSlot, slotSuits.idle isIdle]
        simp only [recordOf?, once_cons_of_mem isKnown, notAgain, not_false_eq_true, true_and,
          collect?_cons, Option.bind_some, idles]
    | @member _ name _ first second before after listed change =>
        obtain ⟨slot, isSlot, slotSuits⟩ := exists_slot suits apart listed
        have same : ∀ record, fillNamed? slots record name first =
            fillNamed? slots record name second := by
          intro record
          rw [fillNamed?_of_find? isSlot, fillNamed?_of_find? isSlot,
            slotSuits.rules.indifferent change]
        simp only [recordOf?, Once, known, List.filterMap_append, List.filterMap_cons, collect?,
          List.foldlM_append, List.foldlM_cons, Option.bind_some, same]
    | position before after placed change =>
        obtain ⟨slot, isSlot, slotSuits⟩ := exists_slot_at suits placed
        exact fillAll?_replace isSlot (slotSuits.rules.indifferent change) blank
  refused refused := by
    have names := map_name_eq suits
    cases refused with
    | twice again =>
        rw [recordOf?, names, if_neg again]
    | @member _ _ _ _ members listed inside refused =>
        obtain ⟨slot, isSlot, slotSuits⟩ := exists_slot suits apart listed
        have nothing : collect? (fillNamed? slots) blank members = none := by
          apply collect?_eq_none inside
          rintro record name ⟨rfl⟩
          rw [fillNamed?_of_find? isSlot, slotSuits.rules.refused refused]
          rfl
        rw [recordOf?, nothing, ite_self]
    | position placed inside refused =>
        obtain ⟨slot, isSlot, slotSuits⟩ := exists_slot_at suits placed
        exact fillAll?_eq_none isSlot inside (slotSuits.rules.refused refused) blank

end Slots

namespace Slot

variable {blank : ρ} {shape : Shape}

theorem suits_nullable {decode : Tree → Option α} (rules : shape.Rules decode) (name : String)
    {set : ρ → Option α → ρ} (unset : set blank none = blank) :
    (into name (orNull? decode) set).Suits blank (name, .nullable shape) where
  name := rfl
  rules := rules.nullable.map _
  idle isIdle := by
    cases isIdle with
    | null => rw [map_fill?_into, orNull?, Option.map_some, unset]

theorem suits_list {decode : Tree → Option α} (rules : shape.Rules decode) (name : String)
    {set : ρ → List α → ρ} (unset : set blank [] = blank) :
    (into name (listOf? decode) set).Suits blank (name, .list shape) where
  name := rfl
  rules := rules.list.map _
  idle isIdle := by
    cases isIdle with
    | empty => rw [map_fill?_into, listOf?, List.mapM_nil, Option.pure_def, Option.map_some, unset]

end Slot

/-! ## Whole texts -/

theorem Settles.readAll {reader : Reader α} {decode : Tree → Option α}
    (settles : Settles reader decode) {tree : Tree} {text : List Char} (isText : tree.IsText text) :
    (Json.readAll reader text).toOption = decode tree := by
  obtain ⟨value, behind, before, spells, after⟩ := isText
  have settled := settles.behind_blanks before spells .start
  unfold Json.readAll Cursor.ofText
  cases content : decode tree with
  | none =>
      rw [content] at settled
      obtain ⟨fault, refused⟩ := outcome_eq_none settled
      rw [refused]
      rfl
  | some value =>
      rw [content] at settled
      obtain ⟨stop, taken⟩ := outcome_eq_some settled
      obtain ⟨last, skipped⟩ := after.skips (by simp) stop
      simp only [taken, bind, Except.bind, skipped]
      rfl

/-- What a reader makes of the texts of values is up to what the shape tells apart. -/
structure Shape.Governs (shape : Shape) (reader : Reader α) : Prop where
  alike : ∀ {first second : Tree}, shape.Alike first second → ∀ {text other : String},
    first.IsText text.toList → second.IsText other.toList →
      (readAll reader text.toList).toOption = (readAll reader other.toList).toOption
  refused : ∀ {tree : Tree}, shape.Refused tree → ∀ {text : String},
    tree.IsText text.toList → (readAll reader text.toList).toOption = none

theorem Shape.Rules.governs {shape : Shape} {reader : Reader α} {decode : Tree → Option α}
    (rules : shape.Rules decode) (settles : Settles reader decode) : shape.Governs reader where
  alike alike _ _ isText isOther := by
    rw [settles.readAll isText, settles.readAll isOther, rules.alike alike]
  refused refused _ isText := by rw [settles.readAll isText, rules.refused refused]

end CodeGraph.Json
