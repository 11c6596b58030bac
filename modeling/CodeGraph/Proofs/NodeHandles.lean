import CodeGraph.Document
import CodeGraph.Proofs.Schema
import CodeGraph.Proofs.Text.Cutting
import CodeGraph.Proofs.Text.Hex

/-!
# Handles of nodes

A handle joins a collection and a key with a slash.  Neither of them has a slash: the collections
have plain names, and keys are hexadecimal, whatever text they are taken of.  So a handle names one
collection and one key.
-/

set_option autoImplicit false

namespace CodeGraph

/-! ## Keys -/

theorem toList_storageKey (text : String) :
    (storageKey text).toList = Text.hexBytes ((Digest.md5 text.toUTF8.toList).take 8) := by
  rw [storageKey, String.toList_ofList]
  exact Text.take_hexBytes 8 _

theorem length_storageKey (text : String) : (storageKey text).length = keyLength := by
  rw [← String.length_toList, toList_storageKey, Text.hexBytes_length, List.length_take,
    Digest.md5_length]
  rfl

theorem isHexDigit_of_mem_storageKey {text : String} {c : Char}
    (member : c ∈ (storageKey text).toList) : Text.IsHexDigit c := by
  rw [toList_storageKey] at member
  exact Text.isHexDigit_of_mem_hexBytes member

theorem slash_not_mem_storageKey (text : String) : '/' ∉ (storageKey text).toList :=
  fun member => absurd (isHexDigit_of_mem_storageKey member) (by decide)

theorem storageKey_eq_iff {one other : String} :
    storageKey one = storageKey other ↔
      (Digest.md5 one.toUTF8.toList).take 8 = (Digest.md5 other.toUTF8.toList).take 8 := by
  rw [← String.toList_inj, toList_storageKey, toList_storageKey, Text.hexBytes_inj]

/-! ## Handles -/

theorem toList_nodeHandle (nodeClass : NodeClass) (key : String) :
    (nodeHandle nodeClass key).toList = nodeClass.name.toList ++ '/' :: key.toList := by
  simp [nodeHandle]

theorem cutAtFirst_nodeHandle (nodeClass : NodeClass) (key : String) :
    Text.cutAtFirst ['/'] (nodeHandle nodeClass key).toList =
      some (nodeClass.name.toList, key.toList) := by
  have parts : (nodeHandle nodeClass key).toList =
      nodeClass.name.toList ++ ['/'] ++ key.toList := by
    rw [toList_nodeHandle, List.append_assoc, List.singleton_append]
  rw [parts, Text.cutAtFirst_append key.toList nodeClass.slash_not_mem_name]

theorem nodeHandle_inj {first second : NodeClass} {key otherKey : String} :
    nodeHandle first key = nodeHandle second otherKey ↔ first = second ∧ key = otherKey := by
  constructor
  · intro same
    have cut := cutAtFirst_nodeHandle first key
    rw [same, cutAtFirst_nodeHandle, Option.some.injEq, Prod.mk.injEq, String.toList_inj,
      String.toList_inj, NodeClass.name_inj] at cut
    exact ⟨cut.1.symm, cut.2.symm⟩
  · rintro ⟨rfl, rfl⟩
    rfl

/-- Handles of nodes decode uniquely.  A key has sixteen digits from 0 to 9 and from a to f.  The
first slash of a handle is its only one, and parts the collection from the key.  Two handles are the
same just when the classes and the keys are, and two keys when the digests begin with the same eight
bytes. -/
theorem node_handles_decode_uniquely (first second : NodeClass) (one other : String) :
    let key := storageKey one
    let otherKey := storageKey other
    let handle := nodeHandle first key
    key.length = 16 ∧
    (∀ c ∈ key.toList, Text.IsHexDigit c) ∧
    Text.cutAtFirst ['/'] handle.toList = some (first.name.toList, key.toList) ∧
    Text.pieces '/' handle.toList = [first.name.toList, key.toList] ∧
    (handle = nodeHandle second otherKey ↔ first = second ∧ key = otherKey) ∧
    (key = otherKey ↔
      (Digest.md5 one.toUTF8.toList).take 8 = (Digest.md5 other.toUTF8.toList).take 8) := by
  intro key otherKey handle
  refine ⟨length_storageKey one, fun _ member => isHexDigit_of_mem_storageKey member,
    cutAtFirst_nodeHandle first key, ?_, nodeHandle_inj, storageKey_eq_iff⟩
  rw [toList_nodeHandle]
  exact Text.pieces_append_cons first.slash_not_mem_name (slash_not_mem_storageKey one)

/-- The text fills a block of the digest with characters of two bytes, so that the padding takes a
block of its own. -/
theorem node_handles_decode_uniquely_of_full_block :
    let text := String.ofList (List.replicate 32 'é')
    let handle := nodeHandle .functions (storageKey text)
    handle = "functions/4f9422a963487c03" ∧
      'f' ∈ (storageKey text).toList ∧ Text.IsHexDigit 'f' ∧
      Text.cutAtFirst ['/'] handle.toList =
        some ("functions".toList, "4f9422a963487c03".toList) ∧
      handle ≠ nodeHandle .files (storageKey text) ∧
      handle ≠ nodeHandle .functions (storageKey "") := by
  intro text handle
  have isKey : storageKey text = "4f9422a963487c03" := by decide +kernel
  have emptyKey : storageKey "" = "d41d8cd98f00b204" := by decide +kernel
  have member : 'f' ∈ (storageKey text).toList := by
    rw [isKey]
    decide
  obtain ⟨_, digits, cut, _, sameClass, _⟩ :=
    node_handles_decode_uniquely .functions .files text text
  obtain ⟨_, _, _, _, sameKey, _⟩ :=
    node_handles_decode_uniquely .functions .functions text ""
  refine ⟨?_, member, digits 'f' member, ?_, ?_, ?_⟩
  · simp only [handle, isKey]
    decide
  · rw [← isKey]
    exact cut
  · intro same
    exact absurd (sameClass.mp same).1 (by decide)
  · intro same
    have sameKeys := (sameKey.mp same).2
    rw [isKey, emptyKey] at sameKeys
    exact absurd sameKeys (by decide)

end CodeGraph
