import CodeGraph.Proofs.Sums

/-!
# Laws of maps keyed by text

What a look-up finds after an insertion, after a list of insertions and after an addition, and how
an addition changes the total.  A map is determined by what its look-ups find, `ext_get?`.
-/

set_option autoImplicit false

namespace CodeGraph.KeyMap

variable {α : Type}

theorem ne_of_lt {first second : String} (less : first < second) : first ≠ second := by
  intro same
  rw [same] at less
  exact String.lt_irrefl second less

theorem lookup_cons_self (entry : String × α) (rest : List (String × α)) :
    (entry :: rest).lookup entry.1 = some entry.2 :=
  List.lookup_cons_self

theorem lookup_cons_of_ne {key : String} {entry : String × α} (different : key ≠ entry.1)
    (rest : List (String × α)) : (entry :: rest).lookup key = rest.lookup key := by
  have unequal : (key == entry.1) = false := beq_false_of_ne different
  rw [List.lookup_cons, unequal]

theorem lookup_eq_head? (entries : List (String × α)) (key : String) :
    entries.lookup key = ((entries.filter fun entry => entry.1 = key).head?).map Prod.snd := by
  induction entries with
  | nil => rfl
  | cons first rest inductionHypothesis =>
      by_cases same : first.1 = key
      · rw [← same, lookup_cons_self, List.filter_cons_of_pos (by simp)]
        rfl
      · rw [lookup_cons_of_ne (Ne.symm same), List.filter_cons_of_neg (by simpa using same),
          inductionHypothesis]

/-- A look-up from behind finds the last entry with a key. -/
theorem lookup_reverse (entries : List (String × α)) (key : String) :
    entries.reverse.lookup key =
      ((entries.filter fun entry => entry.1 = key).getLast?).map Prod.snd := by
  rw [lookup_eq_head?, List.filter_reverse, List.head?_reverse]

theorem lookup_place_self (key : String) (value : α) (entries : List (String × α)) :
    (place key value entries).lookup key = some value := by
  induction entries with
  | nil => exact lookup_cons_self (key, value) []
  | cons first rest inductionHypothesis =>
      unfold place
      split
      case isTrue => exact lookup_cons_self (key, value) (first :: rest)
      case isFalse =>
        split
        case isTrue firstLess =>
          rw [lookup_cons_of_ne (ne_of_lt firstLess).symm]
          exact inductionHypothesis
        case isFalse => exact lookup_cons_self (key, value) rest

theorem lookup_place_of_ne {key other : String} (different : other ≠ key) (value : α)
    (entries : List (String × α)) :
    (place key value entries).lookup other = entries.lookup other := by
  induction entries with
  | nil => exact lookup_cons_of_ne different []
  | cons first rest inductionHypothesis =>
      unfold place
      split
      case isTrue => exact lookup_cons_of_ne different (first :: rest)
      case isFalse keyNotLess =>
        split
        case isTrue =>
          by_cases isFirst : other = first.1
          · rw [isFirst, lookup_cons_self, lookup_cons_self]
          · rw [lookup_cons_of_ne isFirst, lookup_cons_of_ne isFirst, inductionHypothesis]
        case isFalse firstNotLess =>
          have sameKey : first.1 = key :=
            String.le_antisymm (String.not_lt.mp keyNotLess) (String.not_lt.mp firstNotLess)
          have notFirst : other ≠ first.1 := sameKey ▸ different
          rw [lookup_cons_of_ne different, lookup_cons_of_ne notFirst]

@[simp] theorem get?_empty (key : String) : (empty : KeyMap α).get? key = none := rfl

theorem get?_insert (map : KeyMap α) (key other : String) (value : α) :
    (map.insert key value).get? other = if other = key then some value else map.get? other := by
  by_cases same : other = key
  · rw [if_pos same, same]
    exact lookup_place_self key value map.entries
  · rw [if_neg same]
    exact lookup_place_of_ne same value map.entries

def putAll (map : KeyMap α) (entries : List (String × α)) : KeyMap α :=
  entries.foldl (fun merged entry => merged.insert entry.1 entry.2) map

/-- The last entry with a key is the first one from behind. -/
theorem get?_putAll (map : KeyMap α) (entries : List (String × α)) (key : String) :
    (map.putAll entries).get? key = (entries.reverse.lookup key).or (map.get? key) := by
  induction entries generalizing map with
  | nil => simp [putAll]
  | cons first rest inductionHypothesis =>
      have step : map.putAll (first :: rest) = (map.insert first.1 first.2).putAll rest := rfl
      rw [step, inductionHypothesis, List.reverse_cons, List.lookup_append, Option.or_assoc,
        get?_insert]
      by_cases same : key = first.1
      · rw [same, if_pos rfl, lookup_cons_self, Option.some_or]
      · rw [if_neg same, lookup_cons_of_ne same, List.lookup_nil, Option.none_or]

theorem putAll_append (map : KeyMap α) (first second : List (String × α)) :
    map.putAll (first ++ second) = (map.putAll first).putAll second :=
  List.foldl_append

theorem get?_ofList (entries : List (String × α)) (key : String) :
    (ofList entries).get? key = entries.reverse.lookup key := by
  have found := get?_putAll empty entries key
  rw [get?_empty, Option.or_none] at found
  exact found

/-- Of the entries of a list the last one with a key counts. -/
theorem get?_ofList_append (before after : List (String × α)) (key : String) (value : α)
    (absent : key ∉ after.map Prod.fst) :
    (ofList (before ++ (key, value) :: after)).get? key = some value := by
  have noneAfter : after.reverse.lookup key = none := by
    apply List.lookup_eq_none_iff.mpr
    intro entry member
    rw [bne_iff_ne]
    intro same
    exact absent (List.mem_map.mpr ⟨entry, List.mem_reverse.mp member, same.symm⟩)
  have isValue : [(key, value)].lookup key = some value := lookup_cons_self (key, value) []
  rw [get?_ofList, List.reverse_append, List.reverse_cons, List.lookup_append,
    List.lookup_append, noneAfter, isValue, Option.none_or, Option.some_or]

theorem contains_insert (map : KeyMap α) (key other : String) (value : α) :
    (map.insert key value).contains other = (other == key || map.contains other) := by
  by_cases same : other = key <;> simp [contains, get?_insert, same]

/-! ## Entries and look-ups -/

theorem mem_of_lookup {entries : List (String × α)} {key : String} {value : α}
    (found : entries.lookup key = some value) : (key, value) ∈ entries := by
  obtain ⟨before, after, parts, _⟩ := List.lookup_eq_some_iff.mp found
  rw [parts]
  simp

theorem lookup_of_mem {entries : List (String × α)} {key : String} {value : α}
    (distinct : (entries.map Prod.fst).Nodup) (member : (key, value) ∈ entries) :
    entries.lookup key = some value := by
  induction entries with
  | nil => simp at member
  | cons first rest inductionHypothesis =>
      simp only [List.map_cons, List.nodup_cons] at distinct
      rcases List.mem_cons.mp member with isFirst | inRest
      · rw [← isFirst]
        exact lookup_cons_self (key, value) rest
      · have notFirst : key ≠ first.1 :=
          ne_of_mem_of_not_mem (List.mem_map_of_mem inRest) distinct.1
        rw [lookup_cons_of_ne notFirst]
        exact inductionHypothesis distinct.2 inRest

theorem keys_nodup (map : KeyMap α) : map.keys.Nodup := by
  apply List.pairwise_map.mpr
  apply map.ordered.imp
  intro first second less
  exact ne_of_lt less

theorem get?_eq_some_iff {map : KeyMap α} {key : String} {value : α} :
    map.get? key = some value ↔ (key, value) ∈ map.entries :=
  ⟨mem_of_lookup, lookup_of_mem map.keys_nodup⟩

theorem get?_ofList_eq_some_iff {entries : List (String × α)}
    (distinct : (entries.map Prod.fst).Nodup) {key : String} {value : α} :
    (ofList entries).get? key = some value ↔ (key, value) ∈ entries := by
  have reverseDistinct : (entries.reverse.map Prod.fst).Nodup := by
    rw [List.map_reverse]
    exact List.pairwise_reverse.mpr (distinct.imp Ne.symm)
  rw [get?_ofList]
  constructor
  · intro found
    exact List.mem_reverse.mp (mem_of_lookup found)
  · intro member
    exact lookup_of_mem reverseDistinct (List.mem_reverse.mpr member)

theorem mem_keys {map : KeyMap α} {key : String} : key ∈ map.keys ↔ map.contains key := by
  simp only [keys, contains, List.mem_map, Option.isSome_iff_exists]
  constructor
  · rintro ⟨entry, member, rfl⟩
    exact ⟨entry.2, get?_eq_some_iff.mpr member⟩
  · rintro ⟨value, found⟩
    exact ⟨(key, value), get?_eq_some_iff.mp found, rfl⟩

/-! ## Maps as what they find -/

/-- Maps in which every look-up finds the same are the same. -/
theorem ext_get? {first second : KeyMap α} (same : ∀ key, first.get? key = second.get? key) :
    first = second := by
  have distinct : ∀ map : KeyMap α, map.entries.Nodup :=
    fun map => map.ordered.imp fun less equal => ne_of_lt less (congrArg Prod.fst equal)
  have perm : first.entries.Perm second.entries := by
    refine (List.perm_ext_iff_of_nodup (distinct first) (distinct second)).mpr ?_
    rintro ⟨key, value⟩
    rw [← get?_eq_some_iff, ← get?_eq_some_iff, same]
  -- the same entries in the same order
  have equal : first.entries = second.entries :=
    perm.eq_of_pairwise (fun _ _ _ _ less more =>
      absurd (String.lt_trans less more) (String.lt_irrefl _)) first.ordered second.ordered
  cases first
  cases second
  cases equal
  rfl

theorem ofList_entries (map : KeyMap α) : ofList map.entries = map := by
  apply ext_get?
  intro key
  apply Option.ext
  intro value
  exact (get?_ofList_eq_some_iff map.keys_nodup).trans get?_eq_some_iff.symm

theorem entries_ofList {entries : List (String × α)}
    (ordered : entries.Pairwise fun first second => first.1 < second.1) :
    (ofList entries).entries = entries :=
  congrArg KeyMap.entries (ofList_entries ⟨entries, ordered⟩)

theorem get?_union (map other : KeyMap α) (key : String) :
    (map.union other).get? key = (other.get? key).or (map.get? key) := by
  have found := get?_ofList other.entries key
  rw [ofList_entries] at found
  rw [found]
  exact get?_putAll map other.entries key

theorem get?_filterKeys (map : KeyMap α) (test : String → Bool) (key : String) :
    (map.filterKeys test).get? key = if test key then map.get? key else none := by
  apply Option.ext
  intro value
  have found : (map.filterKeys test).get? key = some value ↔
      (key, value) ∈ map.entries ∧ test key := by
    rw [get?_eq_some_iff, filterKeys, List.mem_filter]
  rw [found, ← get?_eq_some_iff]
  by_cases kept : test key = true <;> simp [kept]

/-- It is the same to put entries into a map and to put in the map of them. -/
theorem union_ofList (map : KeyMap α) (entries : List (String × α)) :
    map.union (ofList entries) = map.putAll entries := by
  apply ext_get?
  intro key
  rw [get?_union, get?_ofList, get?_putAll]

/-- Entries that are put in again change nothing. -/
theorem putAll_putAll (map : KeyMap α) (entries : List (String × α)) :
    (map.putAll entries).putAll entries = map.putAll entries := by
  apply ext_get?
  intro key
  rw [get?_putAll, get?_putAll, ← Option.or_assoc, Option.or_self]

theorem mem_keys_ofList {entries : List (String × α)} {key : String} :
    key ∈ (ofList entries).keys ↔ key ∈ entries.map Prod.fst := by
  rw [mem_keys, contains, get?_ofList, Option.isSome_iff_ne_none, Ne, List.lookup_eq_none_iff]
  simp only [List.mem_reverse, bne_iff_ne, List.mem_map]
  constructor
  · intro notAll
    refine Classical.byContradiction fun absent => notAll fun entry member same => ?_
    exact absent ⟨entry, member, same.symm⟩
  · rintro ⟨entry, member, rfl⟩ none
    exact none entry member rfl

theorem keys_ordered (map : KeyMap α) : map.keys.Pairwise fun first second => first < second :=
  List.pairwise_map.mpr map.ordered

/-- Maps that have the same keys list them in the same order. -/
theorem keys_eq_keys {β : Type} {first : KeyMap α} {second : KeyMap β}
    (same : ∀ key, key ∈ first.keys ↔ key ∈ second.keys) : first.keys = second.keys := by
  have perm : first.keys.Perm second.keys :=
    (List.perm_ext_iff_of_nodup first.keys_nodup second.keys_nodup).mpr same
  exact perm.eq_of_pairwise (fun _ _ _ _ less more =>
    absurd (String.lt_trans less more) (String.lt_irrefl _)) first.keys_ordered
    second.keys_ordered

theorem mem_keys_putAll {map : KeyMap α} {entries : List (String × α)} {key : String} :
    key ∈ (map.putAll entries).keys ↔ key ∈ entries.map Prod.fst ∨ key ∈ map.keys := by
  rw [← mem_keys_ofList, mem_keys, mem_keys, mem_keys, contains, contains, contains, get?_putAll,
    get?_ofList, Option.isSome_or, Bool.or_eq_true]

theorem size_eq (map : KeyMap α) : map.size = map.keys.length := by
  simp [size, keys]

/-- A map of a list of entries has one entry for each of the keys. -/
theorem size_ofList (entries : List (String × α)) :
    (ofList entries).size = (entries.map Prod.fst).eraseDups.length := by
  rw [size_eq]
  apply List.Perm.length_eq
  apply (List.perm_ext_iff_of_nodup (keys_nodup _) (eraseDups_sublist_nodup _).2).mpr
  intro key
  rw [mem_keys_ofList, List.mem_eraseDups]

theorem perm_ofList {entries : List (String × α)} (distinct : (entries.map Prod.fst).Nodup) :
    (ofList entries).entries.Perm entries := by
  have distinctEntries : entries.Nodup :=
    (List.pairwise_map.mp distinct).imp fun different equal => different (congrArg Prod.fst equal)
  have distinctPlaced : (ofList entries).entries.Nodup :=
    (ofList entries).ordered.imp fun less equal => ne_of_lt less (congrArg Prod.fst equal)
  refine (List.perm_ext_iff_of_nodup distinctPlaced distinctEntries).mpr ?_
  rintro ⟨key, value⟩
  rw [← get?_eq_some_iff, get?_ofList_eq_some_iff distinct]

/-- Entries with distinct keys may come in any order. -/
theorem ofList_eq_of_perm {first second : List (String × α)} (perm : first.Perm second)
    (distinct : (first.map Prod.fst).Nodup) : ofList first = ofList second := by
  have alsoDistinct : (second.map Prod.fst).Nodup := (perm.map Prod.fst).nodup_iff.mp distinct
  refine ext_get? fun key => Option.ext fun value => ?_
  rw [get?_ofList_eq_some_iff distinct, get?_ofList_eq_some_iff alsoDistinct, perm.mem_iff]

theorem ofList_append_singleton (entries : List (String × α)) (entry : String × α) :
    ofList (entries ++ [entry]) = (ofList entries).insert entry.1 entry.2 :=
  putAll_append empty entries [entry]

theorem ofList_append (first second : List (String × α)) :
    ofList (first ++ second) = (ofList first).union (ofList second) := by
  rw [union_ofList]
  exact putAll_append empty first second

/-! ## Totals -/

theorem lookup_eq_none_of_lt {key : String} {first : String × α} {rest : List (String × α)}
    (ordered : (first :: rest).Pairwise fun first second => first.1 < second.1)
    (less : key < first.1) : (first :: rest).lookup key = none := by
  apply List.lookup_eq_none_iff.mpr
  intro entry member
  rw [bne_iff_ne]
  rcases List.mem_cons.mp member with isFirst | inRest
  · rw [isFirst]
    exact ne_of_lt less
  · exact ne_of_lt (String.lt_trans less ((List.pairwise_cons.mp ordered).1 entry inRest))

theorem sumOf_place {entries : List (String × Nat)} (key : String) (number : Nat)
    (ordered : entries.Pairwise fun first second => first.1 < second.1) :
    sumOf ((place key number entries).map Prod.snd) + (entries.lookup key).getD 0 =
      sumOf (entries.map Prod.snd) + number := by
  induction entries with
  | nil => simp [place, sumOf]
  | cons first rest inductionHypothesis =>
      have restOrdered := (List.pairwise_cons.mp ordered).2
      unfold place
      split
      case isTrue keyLess =>
        rw [lookup_eq_none_of_lt ordered keyLess]
        simp only [List.map_cons, sumOf, Option.getD_none]
        omega
      case isFalse keyNotLess =>
        split
        case isTrue firstLess =>
          have restEquation := inductionHypothesis restOrdered
          rw [lookup_cons_of_ne (ne_of_lt firstLess).symm]
          simp only [List.map_cons, sumOf]
          omega
        case isFalse firstNotLess =>
          have sameKey : first.1 = key :=
            String.le_antisymm (String.not_lt.mp keyNotLess) (String.not_lt.mp firstNotLess)
          rw [← sameKey, lookup_cons_self]
          simp only [List.map_cons, sumOf, Option.getD_some]
          omega

theorem get?_add (map : KeyMap Nat) (key other : String) (amount : Nat) :
    (map.add key amount).get? other =
      if other = key then some ((map.get? key).getD 0 + amount) else map.get? other := by
  rw [add, get?_insert]

theorem contains_add (map : KeyMap Nat) (key other : String) (amount : Nat) :
    (map.add key amount).contains other = (other == key || map.contains other) := by
  rw [add, contains_insert]

theorem total_add (map : KeyMap Nat) (key : String) (amount : Nat) :
    (map.add key amount).total = map.total + amount := by
  have equation := sumOf_place key ((map.get? key).getD 0 + amount) map.ordered
  simp only [total, values, add, insert, get?] at equation ⊢
  omega

theorem total_ofList {entries : List (String × Nat)} (distinct : (entries.map Prod.fst).Nodup) :
    (ofList entries).total = sumOf (entries.map Prod.snd) :=
  sumOf_perm ((perm_ofList distinct).map Prod.snd)

def tally (texts : List String) : KeyMap Nat :=
  texts.foldl (fun counts text => counts.add text 1) empty

theorem total_tally (texts : List String) : (tally texts).total = texts.length := by
  have counted : ∀ counts : KeyMap Nat,
      (texts.foldl (fun counts text => counts.add text 1) counts).total =
        counts.total + texts.length := by
    induction texts with
    | nil => exact fun counts => rfl
    | cons first later inductionHypothesis =>
        intro counts
        rw [List.foldl_cons, inductionHypothesis, total_add, List.length_cons]
        omega
  rw [tally, counted]
  exact Nat.zero_add _

theorem get?_tally (texts : List String) (key : String) :
    ((tally texts).get? key).getD 0 = texts.count key := by
  have counted : ∀ counts : KeyMap Nat,
      ((texts.foldl (fun counts text => counts.add text 1) counts).get? key).getD 0 =
        (counts.get? key).getD 0 + texts.count key := by
    induction texts with
    | nil => exact fun counts => rfl
    | cons first later inductionHypothesis =>
        intro counts
        rw [List.foldl_cons, inductionHypothesis, get?_add, List.count_cons]
        by_cases isFirst : key = first
        · subst isFirst
          simp
          omega
        · simp [isFirst, Ne.symm isFirst]
  rw [tally, counted, get?_empty]
  exact Nat.zero_add _

/-- The order of the texts does not matter for their tally. -/
theorem tally_perm {first second : List String} (perm : first.Perm second) :
    tally first = tally second := by
  refine perm.foldl_eq' (fun one _ other _ counts => ext_get? fun key => ?_) empty
  by_cases same : one = other
  · rw [same]
  · simp only [get?_add]
    by_cases isOne : key = one
    · simp [isOne, same]
    · by_cases isOther : key = other <;> simp [isOne, isOther, Ne.symm same]

end CodeGraph.KeyMap
