/-!
# Maps keyed by text

A finite map holds its entries in strictly increasing order of their keys.  The order of texts
compares code points one by one, which is the order of their UTF-8 bytes.
-/

set_option autoImplicit false

namespace CodeGraph

def sumOf : List Nat → Nat
  | [] => 0
  | first :: rest => first + sumOf rest

/-- A finite map from texts, as its entries in increasing order of the keys. -/
structure KeyMap (α : Type) where
  entries : List (String × α)
  ordered : entries.Pairwise fun first second => first.1 < second.1

namespace KeyMap

variable {α : Type}

/-- Puts an entry at its place among ordered entries; an entry with the same key gives way. -/
def place (key : String) (value : α) : List (String × α) → List (String × α)
  | [] => [(key, value)]
  | first :: rest =>
      if key < first.1 then (key, value) :: first :: rest
      else if first.1 < key then first :: place key value rest
      else (key, value) :: rest

theorem mem_place {key : String} {value : α} {entry : String × α} {entries : List (String × α)}
    (member : entry ∈ place key value entries) : entry = (key, value) ∨ entry ∈ entries := by
  induction entries with
  | nil => simpa [place] using member
  | cons first rest inductionHypothesis =>
      unfold place at member
      split at member
      · simpa using member
      · split at member
        · rcases List.mem_cons.mp member with isFirst | inRest
          · exact Or.inr (by simp [isFirst])
          · rcases inductionHypothesis inRest with isNew | isOld
            · exact Or.inl isNew
            · exact Or.inr (by simp [isOld])
        · rcases List.mem_cons.mp member with isNew | inRest
          · exact Or.inl isNew
          · exact Or.inr (by simp [inRest])

theorem place_ordered {key : String} {value : α} {entries : List (String × α)}
    (ordered : entries.Pairwise fun first second => first.1 < second.1) :
    (place key value entries).Pairwise fun first second => first.1 < second.1 := by
  induction entries with
  | nil => simp [place]
  | cons first rest inductionHypothesis =>
      obtain ⟨firstLeast, restOrdered⟩ := List.pairwise_cons.mp ordered
      unfold place
      split
      case isTrue keyLess =>
        refine List.pairwise_cons.mpr ⟨?_, ordered⟩
        intro entry member
        rcases List.mem_cons.mp member with isFirst | inRest
        · simpa [isFirst] using keyLess
        · exact String.lt_trans keyLess (firstLeast entry inRest)
      case isFalse keyNotLess =>
        split
        case isTrue firstLess =>
          refine List.pairwise_cons.mpr ⟨?_, inductionHypothesis restOrdered⟩
          intro entry member
          rcases mem_place member with isNew | inRest
          · simpa [isNew] using firstLess
          · exact firstLeast entry inRest
        case isFalse firstNotLess =>
          have sameKey : first.1 = key :=
            String.le_antisymm (String.not_lt.mp keyNotLess) (String.not_lt.mp firstNotLess)
          refine List.pairwise_cons.mpr ⟨?_, restOrdered⟩
          intro entry inRest
          simpa [← sameKey] using firstLeast entry inRest

def empty : KeyMap α :=
  ⟨[], List.Pairwise.nil⟩

def insert (map : KeyMap α) (key : String) (value : α) : KeyMap α :=
  ⟨place key value map.entries, place_ordered map.ordered⟩

/-- The map of a list of entries, of which the last with a key counts. -/
def ofList (entries : List (String × α)) : KeyMap α :=
  entries.foldl (fun map entry => map.insert entry.1 entry.2) empty

def get? (map : KeyMap α) (key : String) : Option α :=
  map.entries.lookup key

def contains (map : KeyMap α) (key : String) : Bool :=
  (map.get? key).isSome

def keys (map : KeyMap α) : List String :=
  map.entries.map Prod.fst

def values (map : KeyMap α) : List α :=
  map.entries.map Prod.snd

def size (map : KeyMap α) : Nat :=
  map.entries.length

def isEmpty (map : KeyMap α) : Bool :=
  map.entries.isEmpty

/-- The entries of the second map put into the first. -/
def union (map other : KeyMap α) : KeyMap α :=
  other.entries.foldl (fun merged entry => merged.insert entry.1 entry.2) map

def filterKeys (map : KeyMap α) (test : String → Bool) : KeyMap α :=
  ⟨map.entries.filter fun entry => test entry.1, map.ordered.filter _⟩

/-- Adds to the number at a key, which is zero where the key is new. -/
def add (map : KeyMap Nat) (key : String) (amount : Nat) : KeyMap Nat :=
  map.insert key ((map.get? key).getD 0 + amount)

def total (map : KeyMap Nat) : Nat :=
  sumOf map.values

end KeyMap

end CodeGraph
