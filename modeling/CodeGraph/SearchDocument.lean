import CodeGraph.Classification
import CodeGraph.NameVariants

/-!
# Search documents

The search collection has one flat record per entity: the fields of the node record without those
of the graph, the source text, and the variants of the name.
-/

set_option autoImplicit false

namespace CodeGraph

structure SearchDocument where
  id : String := ""
  qname : String := ""
  name : String := ""
  nameVariants : List String := []
  code : Option String := none
  doc : Option String := none
  kind : String := ""
  language : String := ""
  filepath : Option String := none
  scope : Option String := none
  start : Option UInt32 := none
  stop : Option UInt32 := none
  deriving DecidableEq

namespace SearchDocument

def format : Json.RecordFormat SearchDocument where
  name := "SearchDocument"
  blank := {}
  fields := [
    .mandatory "id" Json.readText fun document id => { document with id },
    .mandatory "qname" Json.readText fun document qname => { document with qname },
    .mandatory "name" Json.readText fun document name => { document with name },
    .mandatory "name_variants" (Json.readList Json.readText) fun document nameVariants =>
      { document with nameVariants },
    .optional "code" Json.readText fun document code => { document with code },
    .optional "doc" Json.readText fun document doc => { document with doc },
    .mandatory "kind" Json.readText fun document kind => { document with kind },
    .mandatory "language" Json.readText fun document language => { document with language },
    .optional "filepath" Json.readText fun document filepath => { document with filepath },
    .optional "namespace" Json.readText fun document scope => { document with scope },
    .optional "pos" Json.readWord fun document start => { document with start },
    .optional "end" Json.readWord fun document stop => { document with stop }]

def toValue (document : SearchDocument) : Json.Value :=
  .ofMembers <|
    [("id", .text document.id), ("qname", .text document.qname), ("name", .text document.name),
      ("name_variants", .array (document.nameVariants.map .text))]
      ++ Json.Value.optional "code" .text document.code
      ++ Json.Value.optional "doc" .text document.doc
      ++ [("kind", .text document.kind), ("language", .text document.language)]
      ++ Json.Value.optional "filepath" .text document.filepath
      ++ Json.Value.optional "namespace" .text document.scope
      ++ Json.Value.optional "pos" .ofWord document.start
      ++ Json.Value.optional "end" .ofWord document.stop

end SearchDocument

def EntityKind.isSearchable : EntityKind → Bool
  | classDef | function | asyncFunction | sourceModule | assignment => true
  | augmentedAssignment | paramsOf | returns | importOf | other => false

def syntheticMarkers : List (List Char) :=
  [".param.".toList, ".return".toList, ".yields.".toList]

def Entity.isSearchable (entity : Entity) (qname : String) : Bool :=
  entity.kind.any EntityKind.isSearchable
    && !syntheticMarkers.any fun marker => Text.occurs marker qname.toList

/-- The identifier of an entity in the search collection: slashes and points of its qualified name
become underscores. -/
def searchId (qname : String) : String :=
  .ofList (qname.toList.map fun c => if c = '/' ∨ c = '.' then '_' else c)

def lastSegment (qname : String) : String :=
  .ofList (qname.toList.reverse.takeWhile (· ≠ '.')).reverse

/-- A line that is known: zero stands for an unknown one. -/
def knownLine? (line : Option UInt32) : Option UInt32 :=
  line.filter fun number => number > 0

def Entity.searchDocument? (entity : Entity) (qname : String) : Option SearchDocument :=
  if entity.isSearchable qname then
    let name := (nonEmpty? entity.name).getD (lastSegment qname)
    some {
      id := searchId qname
      qname
      name
      nameVariants := CodeGraph.nameVariants name
      code := nonEmpty? entity.code
      doc := nonEmpty? entity.docstring
      kind := (entity.kind.map EntityKind.name).getD "unknown"
      language
      filepath := nonEmpty? entity.filepath
      scope := nonEmpty? entity.parent
      start := knownLine? entity.start?
      stop := knownLine? entity.stop? }
  else
    none

end CodeGraph
