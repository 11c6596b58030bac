import CodeGraph.EntityGraph
import CodeGraph.Proofs.Json.Shapes
import CodeGraph.Proofs.Results

/-!
# Records are decoded from their known fields

The shapes of the records say which fields they have and which of them may be null.  The readers
keep to the shapes, `decoding_depends_on_known_fields`: members of unknown names, the order of
members, and whether a field is missing or null make no difference, at any place inside a record or
a graph.
-/

set_option autoImplicit false

namespace CodeGraph

open Json (Shape Slot Settles Tree orNull? listOf? mapOf? recordOf? settles_text settles_word)
open Json.Slot (apart_into suits_nullable suits_list)

namespace EntityKind

def shape : Shape :=
  .constant (all.map name) other.name

theorem rules : shape.Rules variants.decode? :=
  Shape.Rules.constant variants rfl (by decide) rfl

end EntityKind

namespace RelationType

def shape : Shape :=
  .constant (all.map name) unknown.name

theorem rules : shape.Rules variants.decode? :=
  Shape.Rules.constant variants rfl (by decide) rfl

end RelationType

namespace SourceSpan

def shape : Shape :=
  .record [("start", .nullable .word), ("end", .nullable .word)]

def slots : List (Slot SourceSpan) := [
  .into "start" (orNull? Tree.word?) fun span start => { span with start },
  .into "end" (orNull? Tree.word?) fun span stop => { span with stop }]

def decode? : Tree → Option SourceSpan :=
  recordOf? {} slots

theorem settles : Settles format.read decode? :=
  Settles.record (.cons (settles_word.defaulted _ _) (.cons (settles_word.defaulted _ _) .nil))

theorem apart_slots : slots.Pairwise Slot.Apart := by
  simp only [slots, List.pairwise_cons, List.forall_mem_cons, List.not_mem_nil, false_implies,
    implies_true, List.Pairwise.nil, and_true]
  exact apart_into (by decide) fun _ _ _ => rfl

theorem rules : shape.Rules decode? :=
  Shape.Rules.record (.cons (suits_nullable .word _ rfl) (.cons (suits_nullable .word _ rfl) .nil))
    apart_slots

end SourceSpan

namespace Relation

def shape : Shape :=
  .record [("rel_type", .nullable RelationType.shape), ("source", .nullable .text),
    ("target", .nullable .text), ("pos", .nullable SourceSpan.shape)]

def slots : List (Slot Relation) := [
  .into "rel_type" (orNull? RelationType.variants.decode?) fun relation relationType =>
    { relation with relationType },
  .into "source" (orNull? Tree.text?) fun relation source => { relation with source },
  .into "target" (orNull? Tree.text?) fun relation target => { relation with target },
  .into "pos" (orNull? SourceSpan.decode?) fun relation span => { relation with span }]

def decode? : Tree → Option Relation :=
  recordOf? {} slots

theorem settles : Settles format.read decode? :=
  Settles.record (.cons (RelationType.variants.settles.defaulted _ _)
    (.cons (settles_text.defaulted _ _) (.cons (settles_text.defaulted _ _)
      (.cons (SourceSpan.settles.defaulted _ _) .nil))))

theorem apart_slots : slots.Pairwise Slot.Apart := by
  simp only [slots, List.pairwise_cons, List.forall_mem_cons, List.not_mem_nil, false_implies,
    implies_true, List.Pairwise.nil, and_true]
  and_intros <;> exact apart_into (by decide) fun _ _ _ => rfl

theorem rules : shape.Rules decode? :=
  Shape.Rules.record (.cons (suits_nullable RelationType.rules _ rfl)
    (.cons (suits_nullable .text _ rfl) (.cons (suits_nullable .text _ rfl)
      (.cons (suits_nullable SourceSpan.rules _ rfl) .nil)))) apart_slots

end Relation

namespace Entity

def shape : Shape :=
  .record [("name", .nullable .text), ("kind", .nullable EntityKind.shape),
    ("docstring", .nullable .text), ("filepath", .nullable .text),
    ("parent_qualified_name", .nullable .text), ("code", .nullable .text),
    ("pos", .nullable SourceSpan.shape), ("relations", .list Relation.shape)]

def slots : List (Slot Entity) := [
  .into "name" (orNull? Tree.text?) fun entity name => { entity with name },
  .into "kind" (orNull? EntityKind.variants.decode?) fun entity kind => { entity with kind },
  .into "docstring" (orNull? Tree.text?) fun entity docstring => { entity with docstring },
  .into "filepath" (orNull? Tree.text?) fun entity filepath => { entity with filepath },
  .into "parent_qualified_name" (orNull? Tree.text?) fun entity parent => { entity with parent },
  .into "code" (orNull? Tree.text?) fun entity code => { entity with code },
  .into "pos" (orNull? SourceSpan.decode?) fun entity span => { entity with span },
  .into "relations" (listOf? Relation.decode?) fun entity relations => { entity with relations }]

def decode? : Tree → Option Entity :=
  recordOf? {} slots

theorem settles : Settles format.read decode? :=
  Settles.record (.cons (settles_text.defaulted _ _)
    (.cons (EntityKind.variants.settles.defaulted _ _) (.cons (settles_text.defaulted _ _)
      (.cons (settles_text.defaulted _ _) (.cons (settles_text.defaulted _ _)
        (.cons (settles_text.defaulted _ _) (.cons (SourceSpan.settles.defaulted _ _)
          (.cons (Relation.settles.list.omittable _ _) .nil))))))))

theorem apart_slots : slots.Pairwise Slot.Apart := by
  simp only [slots, List.pairwise_cons, List.forall_mem_cons, List.not_mem_nil, false_implies,
    implies_true, List.Pairwise.nil, and_true]
  and_intros <;> exact apart_into (by decide) fun _ _ _ => rfl

theorem rules : shape.Rules decode? :=
  Shape.Rules.record (.cons (suits_nullable .text _ rfl)
    (.cons (suits_nullable EntityKind.rules _ rfl) (.cons (suits_nullable .text _ rfl)
      (.cons (suits_nullable .text _ rfl) (.cons (suits_nullable .text _ rfl)
        (.cons (suits_nullable .text _ rfl) (.cons (suits_nullable SourceSpan.rules _ rfl)
          (.cons (suits_list Relation.rules _ rfl) .nil)))))))) apart_slots

end Entity

namespace EntityGraph

def shape : Shape :=
  .map Entity.shape

def decode? (tree : Tree) : Option EntityGraph :=
  (mapOf? Entity.decode? tree).map EntityGraph.mk

theorem settles : Settles read decode? where
  blanks cursor := by
    unfold read
    rw [Entity.settles.map.blanks]
  outcome_eq start spells :=
    Json.outcome_map EntityGraph.mk (Entity.settles.map.outcome_eq start spells)

theorem rules : shape.Rules decode? :=
  Entity.rules.keyMap.map EntityGraph.mk

/-- A file that holds a text is loaded as what the text is read as. -/
theorem load_eq {tree : FileTree} {path : String} {text : String}
    (stored : tree.read path = .ok text.toUTF8) :
    load tree path = (Json.readAll read text.toList).mapError (.malformed path) := by
  have decoded : String.fromUTF8? text.toUTF8 = some text := dif_pos text.isValidUTF8
  simp only [load, stored, decode, decoded, parse]

theorem load_toOption {tree : FileTree} {path : String} {text : String}
    (stored : tree.read path = .ok text.toUTF8) :
    (load tree path).toOption = (Json.readAll read text.toList).toOption := by
  rw [load_eq stored]
  cases Json.readAll read text.toList <;> rfl

theorem load_of_refused {tree : FileTree} {path : String} {text : String}
    (stored : tree.read path = .ok text.toUTF8)
    (refused : (Json.readAll read text.toList).toOption = none) :
    ∃ fault, load tree path = .error (.malformed path fault) := by
  rw [load_eq stored]
  cases isRead : Json.readAll read text.toList with
  | ok => rw [isRead] at refused; cases refused
  | error fault => exact ⟨fault, rfl⟩

end EntityGraph

theorem Json.Variants.readAll_unknown {α : Type} (variants : Json.Variants α) {names : List String}
    {constant : α} (table : variants.table.map Prod.fst = names)
    (stands : variants.other? = some constant) {name text : String} (unknown : name ∉ names)
    (isText : (Tree.text (some name)).IsText text.toList) :
    Json.readAll variants.read text.toList = .ok constant := by
  have decoded : (Json.readAll variants.read text.toList).toOption = some constant := by
    rw [variants.settles.readAll isText, decode?, Option.bind_some, ofName?,
      Json.lookup_eq_none (table ▸ unknown), stands, Option.none_or]
  exact eq_ok_of_toOption decoded

/-- What a record or a graph is decoded as depends on its known fields only.  Members of unknown
names may hold anything or go, the rest may stand in any order, a field may be missing in place of
null or of an empty list, and an unknown name is as good as that of the constant for all others,
wherever this is inside.  A list that is null, a known field that comes again, and a position that
is no whole number of 32 bits are refused, wherever they are. -/
theorem decoding_depends_on_known_fields :
    SourceSpan.shape.Governs SourceSpan.format.read ∧
    Relation.shape.Governs Relation.format.read ∧
    Entity.shape.Governs Entity.format.read ∧
    (∀ {first second : Tree}, EntityGraph.shape.Alike first second → ∀ {text other : String},
      first.IsText text.toList → second.IsText other.toList →
      ∀ {tree others : FileTree} {path otherPath : String}, tree.read path = .ok text.toUTF8 →
        others.read otherPath = .ok other.toUTF8 →
        (EntityGraph.load tree path).toOption = (EntityGraph.load others otherPath).toOption) ∧
    (∀ {json : Tree}, EntityGraph.shape.Refused json → ∀ {text : String}, json.IsText text.toList →
      ∀ {tree : FileTree} {path : String}, tree.read path = .ok text.toUTF8 →
        ∃ fault, EntityGraph.load tree path = .error (.malformed path fault)) ∧
    (∀ {name text : String}, name ∉ EntityKind.all.map EntityKind.name →
      (Tree.text (some name)).IsText text.toList →
        Json.readAll EntityKind.variants.read text.toList = .ok .other) ∧
    (∀ {name text : String}, name ∉ RelationType.all.map RelationType.name →
      (Tree.text (some name)).IsText text.toList →
        Json.readAll RelationType.variants.read text.toList = .ok .unknown) := by
  have graphs := EntityGraph.rules.governs EntityGraph.settles
  refine ⟨SourceSpan.rules.governs SourceSpan.settles, Relation.rules.governs Relation.settles,
    Entity.rules.governs Entity.settles, ?_, ?_, ?_, ?_⟩
  · intro first second alike text other isText isOther tree others path otherPath stored storedOther
    rw [EntityGraph.load_toOption stored, EntityGraph.load_toOption storedOther]
    exact graphs.alike alike isText isOther
  · intro json refused text isText tree path stored
    exact EntityGraph.load_of_refused stored (graphs.refused refused isText)
  · intro name text unknown isText
    exact EntityKind.variants.readAll_unknown rfl rfl unknown isText
  · intro name text unknown isText
    exact RelationType.variants.readAll_unknown rfl rfl unknown isText

/-- A member of an unknown name and a kind of an unknown name make no difference, and relations that
are null are refused. -/
theorem decoding_depends_on_known_fields_of_unknown_names :
    let textOf (entity : List (String × Json.Value)) : String :=
      .ofList (Json.Value.object [("a", .object entity)]).compact
    let tree : FileTree := { files := [
      (["told.json"], (textOf [("x", .null), ("kind", .text "enum")]).toUTF8),
      (["plain.json"], (textOf [("kind", .text "other")]).toUTF8),
      (["null.json"], (textOf [("relations", .null)]).toUTF8)] }
    (EntityGraph.load tree "told.json").toOption = (EntityGraph.load tree "plain.json").toOption ∧
      (EntityGraph.load tree "plain.json").toOption =
        some (.ofList [("a", { kind := some .other })]) ∧
      ∃ fault, EntityGraph.load tree "null.json" = .error (.malformed "null.json" fault) := by
  intro textOf tree
  let graphOf (entity : List (Option String × Tree)) : Tree := .object [(some "a", .object entity)]
  let told := graphOf [(some "x", .null), (some "kind", .text (some "enum"))]
  let known := graphOf [(some "kind", .text (some "enum"))]
  let plain := graphOf [(some "kind", .text (some "other"))]
  let nulled := graphOf [(some "relations", .null)]
  have alike : EntityGraph.shape.Alike told plain := by
    apply Relation.EqvGen.trans told known plain
    · exact .rel _ _ (.entry _ [] [] (.members (by decide) (.refl _)))
    · exact .rel _ _ (.entry _ [] [] (.member [] [] (.tail _ (.head _))
        (.content (.unknownName _ (by decide)))))
  have refused : EntityGraph.shape.Refused nulled :=
    .entry (.head _) (.member (List.mem_of_getLast? rfl) (.head _) (.nullList _))
  -- every text is one object in another, whose names and strings are written without escapes
  have isText : ∀ {entity : List (Option String × Tree)} {text inner : List Char},
      text = '{' :: '"' :: 'a' :: '"' :: ':' :: '{' :: inner →
      Json.Spells (.members true entity) inner ['}'] → (graphOf entity).IsText text := by
    rintro entity text inner rfl inside
    exact ⟨_, [], .none _, .object (.member [.plain 'a' rfl] (.none _) (.none _) (.none _)
      (.object inside) (.endObject _ (.none _))), .none _⟩
  have isTold : told.IsText (textOf [("x", .null), ("kind", .text "enum")]).toList := by
    rw [String.toList_ofList]
    apply isText rfl
    exact .member [.plain 'x' rfl] (.none _) (.none _) (.none _) (.null _)
      (.member [.plain 'k' rfl, .plain 'i' rfl, .plain 'n' rfl, .plain 'd' rfl]
        ⟨_, .none _, .none _⟩ (.none _) (.none _)
        (.text [.plain 'e' rfl, .plain 'n' rfl, .plain 'u' rfl, .plain 'm' rfl] _)
        (.endObject _ (.none _)))
  have isPlain : plain.IsText (textOf [("kind", .text "other")]).toList := by
    rw [String.toList_ofList]
    apply isText rfl
    exact .member [.plain 'k' rfl, .plain 'i' rfl, .plain 'n' rfl, .plain 'd' rfl]
      (.none _) (.none _) (.none _)
      (.text [.plain 'o' rfl, .plain 't' rfl, .plain 'h' rfl, .plain 'e' rfl, .plain 'r' rfl] _)
      (.endObject _ (.none _))
  have isNulled : nulled.IsText (textOf [("relations", .null)]).toList := by
    rw [String.toList_ofList]
    apply isText rfl
    exact .member [.plain 'r' rfl, .plain 'e' rfl, .plain 'l' rfl, .plain 'a' rfl, .plain 't' rfl,
        .plain 'i' rfl, .plain 'o' rfl, .plain 'n' rfl, .plain 's' rfl]
      (.none _) (.none _) (.none _) (.null _) (.endObject _ (.none _))
  obtain ⟨_, _, _, loadedAlike, loadRefused, _⟩ := decoding_depends_on_known_fields
  refine ⟨loadedAlike alike isTold isPlain rfl rfl, ?_, loadRefused refused isNulled rfl⟩
  rw [EntityGraph.load_toOption rfl, EntityGraph.settles.readAll isPlain]
  rfl

end CodeGraph
