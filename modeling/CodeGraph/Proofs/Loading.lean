import CodeGraph.Proofs.Documents
import CodeGraph.Proofs.Json.Typed
import CodeGraph.EntityGraph

/-!
# Loading undoes serialization

Each record is read back from the members it is written as, in whatever order they stand: for each
type of record `only` says what has been read when some of the members have come.  A graph is the
map of its records, and its file gives back the graph, `loading_undoes_serialization`.
-/

set_option autoImplicit false

namespace CodeGraph

open Json (Reads reads_text reads_word reads_bool reads_option reads_constant reads_list)

theorem Json.Value.ofText?_map {α : Type} (value : Option α) (name : α → String) :
    ofText? (value.map name) = value.elim .null fun content => .text (name content) := by
  cases value <;> rfl

theorem reads_kind (kind : EntityKind) :
    Reads EntityKind.variants.read (.text kind.name) kind :=
  reads_constant (by cases kind <;> decide)

theorem reads_relationType (relationType : RelationType) :
    Reads RelationType.variants.read (.text relationType.name) relationType :=
  reads_constant (by cases relationType <;> decide)

theorem reads_kind? (kind : Option EntityKind) :
    Reads (Json.readOption EntityKind.variants.read) (.ofText? (kind.map EntityKind.name))
      kind := by
  rw [Json.Value.ofText?_map]
  exact reads_option reads_kind (fun _ => rfl) kind

theorem reads_relationType? (relationType : Option RelationType) :
    Reads (Json.readOption RelationType.variants.read)
      (.ofText? (relationType.map RelationType.name)) relationType := by
  rw [Json.Value.ofText?_map]
  exact reads_option reads_relationType (fun _ => rfl) relationType

theorem reads_text? (text : Option String) :
    Reads (Json.readOption Json.readText) (.ofText? text) text :=
  reads_option reads_text (fun _ => rfl) text

theorem reads_word? (word : Option UInt32) :
    Reads (Json.readOption Json.readWord) (.ofWord? word) word :=
  reads_option reads_word (fun _ => rfl) word

/-! ## Entities -/

section Entities

open Json.Field (reads_defaulted reads_omittable)

namespace SourceSpan

variable (span : SourceSpan)

def only (names : List String) : SourceSpan where
  start := if "start" ∈ names then span.start else none
  stop := if "end" ∈ names then span.stop else none

theorem fills :
    format.Fills [("start", .ofWord? span.start), ("end", .ofWord? span.stop)] span.only span where
  distinct := by simp
  blank := rfl
  required := by simp [format, Json.Field.defaulted]
  whole names present := by simp [only, present]
  reads := by
    simp only [List.forall_mem_cons]
    refine ⟨⟨_, rfl, fun names => reads_defaulted _ (reads_word? span.start) ?_⟩,
      ⟨_, rfl, fun names => reads_defaulted _ (reads_word? span.stop) ?_⟩,
      List.forall_mem_nil _⟩ <;> simp [only]

theorem reads : Reads format.read span.toValue span :=
  span.fills.reads_ofMembers

theorem reads? (span : Option SourceSpan) :
    Reads (Json.readOption format.read) (span.elim .null toValue) span :=
  reads_option reads (fun _ => rfl) span

end SourceSpan

namespace Relation

variable (relation : Relation)

def only (names : List String) : Relation where
  relationType := if "rel_type" ∈ names then relation.relationType else none
  source := if "source" ∈ names then relation.source else none
  target := if "target" ∈ names then relation.target else none
  span := if "pos" ∈ names then relation.span else none

theorem fills :
    format.Fills [
      ("rel_type", .ofText? (relation.relationType.map RelationType.name)),
      ("source", .ofText? relation.source),
      ("target", .ofText? relation.target),
      ("pos", relation.span.elim .null SourceSpan.toValue)] relation.only relation where
  distinct := by simp
  blank := rfl
  required := by simp [format, Json.Field.defaulted]
  whole names present := by simp [only, present]
  reads := by
    simp only [List.forall_mem_cons]
    refine ⟨⟨_, rfl, fun names => reads_defaulted _ (reads_relationType? relation.relationType) ?_⟩,
      ⟨_, rfl, fun names => reads_defaulted _ (reads_text? relation.source) ?_⟩,
      ⟨_, rfl, fun names => reads_defaulted _ (reads_text? relation.target) ?_⟩,
      ⟨_, rfl, fun names => reads_defaulted _ (SourceSpan.reads? relation.span) ?_⟩,
      List.forall_mem_nil _⟩ <;> simp [only]

theorem reads : Reads format.read relation.toValue relation :=
  relation.fills.reads_ofMembers

theorem reads_all (relations : List Relation) :
    Reads (Json.readList format.read) (.array (relations.map toValue)) relations :=
  reads_list reads (fun _ => rfl) relations

end Relation

namespace Entity

variable (entity : Entity)

def only (names : List String) : Entity where
  name := if "name" ∈ names then entity.name else none
  kind := if "kind" ∈ names then entity.kind else none
  docstring := if "docstring" ∈ names then entity.docstring else none
  filepath := if "filepath" ∈ names then entity.filepath else none
  parent := if "parent_qualified_name" ∈ names then entity.parent else none
  code := if "code" ∈ names then entity.code else none
  span := if "pos" ∈ names then entity.span else none
  relations := if "relations" ∈ names then entity.relations else []

theorem fills :
    format.Fills [
      ("name", .ofText? entity.name),
      ("kind", .ofText? (entity.kind.map EntityKind.name)),
      ("docstring", .ofText? entity.docstring),
      ("filepath", .ofText? entity.filepath),
      ("parent_qualified_name", .ofText? entity.parent),
      ("code", .ofText? entity.code),
      ("pos", entity.span.elim .null SourceSpan.toValue),
      ("relations", .array (entity.relations.map Relation.toValue))] entity.only entity where
  distinct := by simp
  blank := rfl
  required := by simp [format, Json.Field.defaulted, Json.Field.omittable]
  whole names present := by simp [only, present]
  reads := by
    simp only [List.forall_mem_cons]
    refine ⟨⟨_, rfl, fun names => reads_defaulted _ (reads_text? entity.name) ?_⟩,
      ⟨_, rfl, fun names => reads_defaulted _ (reads_kind? entity.kind) ?_⟩,
      ⟨_, rfl, fun names => reads_defaulted _ (reads_text? entity.docstring) ?_⟩,
      ⟨_, rfl, fun names => reads_defaulted _ (reads_text? entity.filepath) ?_⟩,
      ⟨_, rfl, fun names => reads_defaulted _ (reads_text? entity.parent) ?_⟩,
      ⟨_, rfl, fun names => reads_defaulted _ (reads_text? entity.code) ?_⟩,
      ⟨_, rfl, fun names => reads_defaulted _ (SourceSpan.reads? entity.span) ?_⟩,
      ⟨_, rfl, fun names => reads_omittable _ (Relation.reads_all entity.relations) ?_⟩,
      List.forall_mem_nil _⟩ <;> simp [only]

theorem reads : Reads format.read entity.toValue entity :=
  entity.fills.reads_ofMembers

end Entity

theorem EntityGraph.reads (graph : EntityGraph) : Reads EntityGraph.read graph.toValue graph := by
  intro written reordered rest ends start
  obtain ⟨stop, taken⟩ :=
    Json.reads_map Entity.reads graph.entities written reordered rest ends start
  refine ⟨stop, ?_⟩
  simp only [EntityGraph.read, taken, bind, Except.bind]
  rfl

end Entities

/-! ## Documents -/

section Documents

open Json.Field (reads_mandatory reads_optional)
open Json.Value (forall_mem_optional mem_keys_optional nodup_keys_optional
  nodup_keys_optional_append)

theorem ite_isSome {α : Type} (value : Option α) :
    (if value.isSome then value else none) = value := by
  cases value <;> rfl

theorem reads_some_text (text : String) :
    Reads (Json.readOption Json.readText) (.text text) (some text) :=
  reads_text? (some text)

theorem reads_some_word (word : UInt32) :
    Reads (Json.readOption Json.readWord) (.ofWord word) (some word) :=
  reads_word? (some word)

theorem reads_texts (texts : List String) :
    Reads (Json.readList Json.readText) (.array (texts.map .text)) texts :=
  reads_list reads_text (fun _ => rfl) texts

namespace EdgeDocument

variable (document : EdgeDocument)

def only (names : List String) : EdgeDocument where
  key := if "_key" ∈ names then document.key else ""
  source := if "_from" ∈ names then document.source else ""
  target := if "_to" ∈ names then document.target else ""
  callSite := if "call_site_pos" ∈ names then document.callSite else none

theorem fills :
    format.Fills
      ([("_key", .text document.key), ("_from", .text document.source),
        ("_to", .text document.target)]
        ++ Json.Value.optional "call_site_pos" .ofWord document.callSite)
      document.only document where
  distinct := by simp [mem_keys_optional, nodup_keys_optional]
  blank := rfl
  required := by simp [format, Json.Field.mandatory, Json.Field.optional]
  whole names present := by simp [only, present, mem_keys_optional, ite_isSome]
  reads := by
    simp only [List.forall_mem_append, List.forall_mem_cons]
    refine ⟨⟨⟨_, rfl, fun names => reads_mandatory _ (reads_text document.key) ?_⟩,
      ⟨_, rfl, fun names => reads_mandatory _ (reads_text document.source) ?_⟩,
      ⟨_, rfl, fun names => reads_mandatory _ (reads_text document.target) ?_⟩,
      List.forall_mem_nil _⟩,
      Json.Value.forall_mem_optional fun content isContent =>
        ⟨_, rfl, fun names => reads_optional _ (reads_some_word content) ?_⟩⟩
    all_goals simp [only, *]

theorem reads : Reads format.read document.toValue document :=
  document.fills.reads_ofMembers

end EdgeDocument

namespace NodeDocument

variable (document : NodeDocument)

def only (names : List String) : NodeDocument where
  key := if "_key" ∈ names then document.key else ""
  qname := if "qname" ∈ names then document.qname else ""
  name := if "name" ∈ names then document.name else none
  kind := if "kind" ∈ names then document.kind else ""
  doc := if "doc" ∈ names then document.doc else none
  filepath := if "filepath" ∈ names then document.filepath else none
  scope := if "namespace" ∈ names then document.scope else none
  language := if "language" ∈ names then document.language else ""
  start := if "pos" ∈ names then document.start else none
  stop := if "end" ∈ names then document.stop else none
  isAsync := if "is_async" ∈ names then document.isAsync else false
  isMethod := if "is_method" ∈ names then document.isMethod else false

theorem fills :
    format.Fills
      ([("_key", .text document.key), ("qname", .text document.qname)]
        ++ Json.Value.optional "name" .text document.name
        ++ [("kind", .text document.kind)]
        ++ Json.Value.optional "doc" .text document.doc
        ++ Json.Value.optional "filepath" .text document.filepath
        ++ Json.Value.optional "namespace" .text document.scope
        ++ [("language", .text document.language)]
        ++ Json.Value.optional "pos" .ofWord document.start
        ++ Json.Value.optional "end" .ofWord document.stop
        ++ [("is_async", .bool document.isAsync), ("is_method", .bool document.isMethod)])
      document.only document where
  distinct := by
    simp only [List.map_append, List.map_cons, List.map_nil, List.append_assoc, List.cons_append,
      List.nil_append, List.nodup_cons, nodup_keys_optional_append]
    simp [mem_keys_optional]
  blank := rfl
  required := by simp [format, Json.Field.mandatory, Json.Field.optional]
  whole names present := by simp [only, present, mem_keys_optional, ite_isSome]
  reads := by
    simp only [List.append_assoc, List.cons_append, List.nil_append, List.forall_mem_cons,
      List.forall_mem_append]
    refine ⟨⟨_, rfl, fun names => reads_mandatory _ (reads_text document.key) ?_⟩,
      ⟨_, rfl, fun names => reads_mandatory _ (reads_text document.qname) ?_⟩,
      forall_mem_optional fun content isName =>
        ⟨_, rfl, fun names => reads_optional _ (reads_some_text content) ?_⟩,
      ⟨_, rfl, fun names => reads_mandatory _ (reads_text document.kind) ?_⟩,
      forall_mem_optional fun content isDoc =>
        ⟨_, rfl, fun names => reads_optional _ (reads_some_text content) ?_⟩,
      forall_mem_optional fun content isPath =>
        ⟨_, rfl, fun names => reads_optional _ (reads_some_text content) ?_⟩,
      forall_mem_optional fun content isScope =>
        ⟨_, rfl, fun names => reads_optional _ (reads_some_text content) ?_⟩,
      ⟨_, rfl, fun names => reads_mandatory _ (reads_text document.language) ?_⟩,
      forall_mem_optional fun content isStart =>
        ⟨_, rfl, fun names => reads_optional _ (reads_some_word content) ?_⟩,
      forall_mem_optional fun content isStop =>
        ⟨_, rfl, fun names => reads_optional _ (reads_some_word content) ?_⟩,
      ⟨_, rfl, fun names => reads_mandatory _ (reads_bool document.isAsync) ?_⟩,
      ⟨_, rfl, fun names => reads_mandatory _ (reads_bool document.isMethod) ?_⟩,
      List.forall_mem_nil _⟩
    all_goals simp [only, *]

theorem reads : Reads format.read document.toValue document :=
  document.fills.reads_ofMembers

end NodeDocument

namespace SearchDocument

variable (document : SearchDocument)

def only (names : List String) : SearchDocument where
  id := if "id" ∈ names then document.id else ""
  qname := if "qname" ∈ names then document.qname else ""
  name := if "name" ∈ names then document.name else ""
  nameVariants := if "name_variants" ∈ names then document.nameVariants else []
  code := if "code" ∈ names then document.code else none
  doc := if "doc" ∈ names then document.doc else none
  kind := if "kind" ∈ names then document.kind else ""
  language := if "language" ∈ names then document.language else ""
  filepath := if "filepath" ∈ names then document.filepath else none
  scope := if "namespace" ∈ names then document.scope else none
  start := if "pos" ∈ names then document.start else none
  stop := if "end" ∈ names then document.stop else none

theorem fills :
    format.Fills
      ([("id", .text document.id), ("qname", .text document.qname), ("name", .text document.name),
        ("name_variants", .array (document.nameVariants.map .text))]
        ++ Json.Value.optional "code" .text document.code
        ++ Json.Value.optional "doc" .text document.doc
        ++ [("kind", .text document.kind), ("language", .text document.language)]
        ++ Json.Value.optional "filepath" .text document.filepath
        ++ Json.Value.optional "namespace" .text document.scope
        ++ Json.Value.optional "pos" .ofWord document.start
        ++ Json.Value.optional "end" .ofWord document.stop)
      document.only document where
  distinct := by
    simp only [List.map_append, List.map_cons, List.append_assoc, List.cons_append,
      List.nil_append, List.nodup_cons, nodup_keys_optional_append]
    simp [mem_keys_optional, nodup_keys_optional]
  blank := rfl
  required := by simp [format, Json.Field.mandatory, Json.Field.optional]
  whole names present := by simp [only, present, mem_keys_optional, ite_isSome]
  reads := by
    simp only [List.append_assoc, List.cons_append, List.nil_append, List.forall_mem_cons,
      List.forall_mem_append]
    refine ⟨⟨_, rfl, fun names => reads_mandatory _ (reads_text document.id) ?_⟩,
      ⟨_, rfl, fun names => reads_mandatory _ (reads_text document.qname) ?_⟩,
      ⟨_, rfl, fun names => reads_mandatory _ (reads_text document.name) ?_⟩,
      ⟨_, rfl, fun names => reads_mandatory _ (reads_texts document.nameVariants) ?_⟩,
      forall_mem_optional fun content isCode =>
        ⟨_, rfl, fun names => reads_optional _ (reads_some_text content) ?_⟩,
      forall_mem_optional fun content isDoc =>
        ⟨_, rfl, fun names => reads_optional _ (reads_some_text content) ?_⟩,
      ⟨_, rfl, fun names => reads_mandatory _ (reads_text document.kind) ?_⟩,
      ⟨_, rfl, fun names => reads_mandatory _ (reads_text document.language) ?_⟩,
      forall_mem_optional fun content isPath =>
        ⟨_, rfl, fun names => reads_optional _ (reads_some_text content) ?_⟩,
      forall_mem_optional fun content isScope =>
        ⟨_, rfl, fun names => reads_optional _ (reads_some_text content) ?_⟩,
      forall_mem_optional fun content isStart =>
        ⟨_, rfl, fun names => reads_optional _ (reads_some_word content) ?_⟩,
      forall_mem_optional fun content isStop =>
        ⟨_, rfl, fun names => reads_optional _ (reads_some_word content) ?_⟩⟩
    all_goals simp [only, *]

theorem reads : Reads format.read document.toValue document :=
  document.fills.reads_ofMembers

end SearchDocument

end Documents

/-! ## Files -/

theorem EntityGraph.load_of_read {graph : EntityGraph} {written : Json.Value}
    (reordered : graph.toValue.ReorderedTo written) {tree : FileTree} {path : String}
    (stored : tree.read path = .ok (String.ofList written.compact).toUTF8) :
    EntityGraph.load tree path = .ok graph := by
  have decoded : String.fromUTF8? (String.ofList written.compact).toUTF8 =
      some (String.ofList written.compact) := dif_pos (String.ofList written.compact).isValidUTF8
  have parsed : EntityGraph.parse written.compact = .ok graph := graph.reads.readAll reordered
  rw [load, stored]
  simp only [decode, decoded, String.toList_ofList, parsed]
  rfl

/-- In whatever order the members of objects are written, the compact text of an encoded value is
read as the value. -/
def ReadsBack {α : Type} (reader : Json.Reader α) (encode : α → Json.Value) : Prop :=
  ∀ value written, (encode value).ReorderedTo written →
    Json.readAll reader written.compact = .ok value

/-- A file with the text of a graph loads as the graph, and every record is read back from its text:
whatever texts, lines and relations it has, with fields that are null or left out, and with the kind
and the relation type that stand for unknown names. -/
theorem loading_undoes_serialization :
    (∀ (graph : EntityGraph) (written : Json.Value) (tree : FileTree) (path : String),
      graph.toValue.ReorderedTo written →
      tree.read path = .ok (String.ofList written.compact).toUTF8 →
      EntityGraph.load tree path = .ok graph) ∧
    ReadsBack SourceSpan.format.read SourceSpan.toValue ∧
    ReadsBack Relation.format.read Relation.toValue ∧
    ReadsBack Entity.format.read Entity.toValue ∧
    ReadsBack NodeDocument.format.read NodeDocument.toValue ∧
    ReadsBack EdgeDocument.format.read EdgeDocument.toValue ∧
    ReadsBack SearchDocument.format.read SearchDocument.toValue :=
  ⟨fun _ _ _ _ reordered stored => EntityGraph.load_of_read reordered stored,
    fun span _ reordered => span.reads.readAll reordered,
    fun relation _ reordered => relation.reads.readAll reordered,
    fun entity _ reordered => entity.reads.readAll reordered,
    fun document _ reordered => document.reads.readAll reordered,
    fun document _ reordered => document.reads.readAll reordered,
    fun document _ reordered => document.reads.readAll reordered⟩

/-- A graph of one entity, whose fields stand in the order in which they are declared. -/
theorem loading_undoes_serialization_declared :
    let entity := (Entity.named "run\n" .other).inside "pkg"
    let written := Json.Value.object [("pkg.run", .object [
      ("name", .text "run\n"), ("kind", .text "other"), ("docstring", .null), ("filepath", .null),
      ("parent_qualified_name", .text "pkg"), ("code", .null), ("pos", .null),
      ("relations", .array [])])]
    let tree : FileTree :=
      { files := [(["graph.json"], (String.ofList written.compact).toUTF8)] }
    EntityGraph.load tree "graph.json" = .ok (.ofList [("pkg.run", entity)]) := by
  intro entity written tree
  have reordered : (EntityGraph.ofList [("pkg.run", entity)]).toValue.ReorderedTo written := by
    refine .object (.refl _) fun name first second inGraph inWritten => ?_
    obtain ⟨rfl, rfl⟩ := Prod.mk.inj (List.mem_singleton.mp inGraph)
    obtain ⟨_, rfl⟩ := Prod.mk.inj (List.mem_singleton.mp inWritten)
    exact .ofMembers (by simp)
  exact loading_undoes_serialization.1 _ written tree "graph.json" reordered rfl

end CodeGraph
