import CodeGraph.Proofs.Json.RoundTrip
import CodeGraph.Document
import CodeGraph.SearchDocument
import CodeGraph.Store

/-!
# Records as JSON values

What the members of a record are, under which key a record is filed, and that its text gives back
the record.
-/

set_option autoImplicit false

namespace CodeGraph

/-! ## Members -/

namespace Json.Value

/-- Of the members of a list the last one with a name counts. -/
theorem member?_ofMembers_append (before after : List (String × Json.Value)) (name : String)
    (value : Json.Value) (absent : name ∉ after.map Prod.fst) :
    (ofMembers (before ++ (name, value) :: after)).member? name = some value :=
  KeyMap.get?_ofList_append before after name value absent

theorem member?_ofMembers_of_not_mem {members : List (String × Json.Value)} {name : String}
    (absent : name ∉ members.map Prod.fst) : (ofMembers members).member? name = none := by
  rw [← KeyMap.mem_keys_ofList, KeyMap.mem_keys, KeyMap.contains, Option.not_isSome_iff_eq_none]
    at absent
  exact absent

theorem mem_keys_optional {α : Type} {name other : String} {encode : α → Json.Value}
    {value : Option α} :
    name ∈ (optional other encode value).map Prod.fst ↔ name = other ∧ value.isSome := by
  cases value <;> simp [optional]

theorem nodup_keys_optional {α : Type} {name : String} {encode : α → Json.Value}
    {value : Option α} : ((optional name encode value).map Prod.fst).Nodup := by
  cases value <;> simp [optional]

theorem nodup_keys_optional_append {α : Type} {name : String} {encode : α → Json.Value}
    {value : Option α} {names : List String} :
    ((optional name encode value).map Prod.fst ++ names).Nodup ↔
      (value.isSome = true → name ∉ names) ∧ names.Nodup := by
  cases value <;> simp [optional]

/-- What holds of a member that is left out where it has no value has to hold only where it has. -/
theorem forall_mem_optional {α : Type} {name : String} {encode : α → Json.Value}
    {value : Option α} {property : String × Json.Value → Prop}
    (holds : ∀ content, value = some content → property (name, encode content)) :
    ∀ member ∈ optional name encode value, property member := by
  cases value with
  | none => exact List.forall_mem_nil _
  | some content => exact List.forall_mem_singleton.mpr (holds content rfl)

end Json.Value

theorem NodeDocument.member?_key (document : NodeDocument) :
    document.toValue.member? "_key" = some (.text document.key) := by
  simp only [toValue, List.cons_append, List.nil_append]
  apply Json.Value.member?_ofMembers_append []
  simp [Json.Value.mem_keys_optional]

theorem EdgeDocument.member?_key (document : EdgeDocument) :
    document.toValue.member? "_key" = some (.text document.key) := by
  apply Json.Value.member?_ofMembers_append []
  simp [Json.Value.mem_keys_optional]

theorem EdgeDocument.member?_source (document : EdgeDocument) :
    document.toValue.member? "_from" = some (.text document.source) := by
  apply Json.Value.member?_ofMembers_append [("_key", .text document.key)]
  simp [Json.Value.mem_keys_optional]

theorem EdgeDocument.member?_target (document : EdgeDocument) :
    document.toValue.member? "_to" = some (.text document.target) := by
  apply Json.Value.member?_ofMembers_append
    [("_key", .text document.key), ("_from", .text document.source)]
  simp [Json.Value.mem_keys_optional]

theorem SearchDocument.member?_id (document : SearchDocument) :
    document.toValue.member? "id" = some (.text document.id) := by
  simp only [toValue, List.cons_append, List.nil_append]
  apply Json.Value.member?_ofMembers_append []
  simp [Json.Value.mem_keys_optional]

theorem SearchDocument.member?_qname (document : SearchDocument) :
    document.toValue.member? "qname" = some (.text document.qname) := by
  simp only [toValue, List.cons_append, List.nil_append]
  apply Json.Value.member?_ofMembers_append [("id", .text document.id)]
  simp [Json.Value.mem_keys_optional]

theorem SearchDocument.member?_key (document : SearchDocument) :
    document.toValue.member? "_key" = none := by
  apply Json.Value.member?_ofMembers_of_not_mem
  simp [Json.Value.mem_keys_optional]

/-! ## Keys -/

/-- A key field of the graph that is a text comes before any other. -/
theorem documentKey?_of_key {document : Json.Value} {key : String}
    (isKey : document.member? "_key" = some (.text key)) : documentKey? document = some key := by
  simp [documentKey?, keyFields, isKey, Json.Value.text?]

theorem NodeDocument.documentKey?_toValue (document : NodeDocument) :
    documentKey? document.toValue = some document.key :=
  documentKey?_of_key document.member?_key

theorem EdgeDocument.documentKey?_toValue (document : EdgeDocument) :
    documentKey? document.toValue = some document.key :=
  documentKey?_of_key document.member?_key

theorem SearchDocument.documentKey?_toValue (document : SearchDocument) :
    documentKey? document.toValue = some document.id := by
  simp [documentKey?, keyFields, document.member?_key, document.member?_id, Json.Value.text?]

/-! ## Texts -/

namespace Json.Value.Plain

variable {depth : Nat}

theorem ofMembers {members : List (String × Json.Value)}
    (plain : ∀ member ∈ members, member.2.Plain depth) : (ofMembers members).Plain (depth + 1) := by
  refine object (KeyMap.ofList members).ordered fun member placed => plain member ?_
  have found := KeyMap.get?_eq_some_iff.mpr placed
  rw [KeyMap.get?_ofList] at found
  exact List.mem_reverse.mp (KeyMap.mem_of_lookup found)

theorem of_optional {α : Type} {name : String} {encode : α → Json.Value} {value : Option α}
    (plain : ∀ content, (encode content).Plain depth) :
    ∀ member ∈ optional name encode value, member.2.Plain depth :=
  forall_mem_optional fun content _ => plain content

theorem ofWord (depth : Nat) (word : UInt32) : (Json.Value.ofWord word).Plain depth := by
  refine whole depth ⟨by omega, ?_⟩
  have bound := word.toNat_lt
  simp only [UInt64.size]
  omega

theorem optionalText {name : String} {value : Option String} :
    ∀ member ∈ optional name Json.Value.text value, member.2.Plain depth :=
  of_optional (.text depth)

theorem optionalWord {name : String} {value : Option UInt32} :
    ∀ member ∈ optional name Json.Value.ofWord value, member.2.Plain depth :=
  of_optional (.ofWord depth)

end Json.Value.Plain

theorem NodeDocument.parse_compact (document : NodeDocument) :
    Json.parse document.toValue.compact = .ok document.toValue := by
  refine Json.parse_compact (Json.Value.Plain.ofMembers ?_)
  simp only [List.forall_mem_append, List.forall_mem_cons]
  refine ⟨⟨⟨⟨⟨⟨⟨⟨⟨?_, .optionalText⟩, ?_⟩, .optionalText⟩, .optionalText⟩, .optionalText⟩, ?_⟩,
    .optionalWord⟩, .optionalWord⟩, ?_⟩
  · exact ⟨.text _ _, .text _ _, List.forall_mem_nil _⟩
  · exact ⟨.text _ _, List.forall_mem_nil _⟩
  · exact ⟨.text _ _, List.forall_mem_nil _⟩
  · exact ⟨.bool _ _, .bool _ _, List.forall_mem_nil _⟩

theorem EdgeDocument.parse_compact (document : EdgeDocument) :
    Json.parse document.toValue.compact = .ok document.toValue := by
  refine Json.parse_compact (Json.Value.Plain.ofMembers ?_)
  simp only [List.forall_mem_append, List.forall_mem_cons]
  exact ⟨⟨.text _ _, .text _ _, .text _ _, List.forall_mem_nil _⟩, .optionalWord⟩

theorem SearchDocument.parse_compact (document : SearchDocument) :
    Json.parse document.toValue.compact = .ok document.toValue := by
  refine Json.parse_compact (Json.Value.Plain.ofMembers ?_)
  have texts : ∀ texts : List String, (Json.Value.array (texts.map .text)).Plain 126 := by
    intro texts
    apply Json.Value.Plain.array
    simp only [List.mem_map]
    rintro _ ⟨text, _, rfl⟩
    exact .text _ text
  simp only [List.forall_mem_append, List.forall_mem_cons]
  refine ⟨⟨⟨⟨⟨⟨⟨?_, .optionalText⟩, .optionalText⟩, ?_⟩, .optionalText⟩, .optionalText⟩,
    .optionalWord⟩, .optionalWord⟩
  · exact ⟨.text _ _, .text _ _, .text _ _, texts _, List.forall_mem_nil _⟩
  · exact ⟨.text _ _, .text _ _, List.forall_mem_nil _⟩

end CodeGraph
