import CodeGraph.Key
import CodeGraph.Schema

/-!
# Documents of the property graph

Node and edge records hold what queries on the graph need, and no source text.
-/

set_option autoImplicit false

namespace CodeGraph

structure NodeDocument where
  key : String := ""
  qname : String := ""
  name : Option String := none
  /-- The name of the kind, in which every function is a `function`. -/
  kind : String := ""
  doc : Option String := none
  filepath : Option String := none
  scope : Option String := none
  language : String := ""
  start : Option UInt32 := none
  stop : Option UInt32 := none
  isAsync : Bool := false
  isMethod : Bool := false
  deriving DecidableEq

namespace NodeDocument

def format : Json.RecordFormat NodeDocument where
  name := "NodeDocument"
  blank := {}
  fields := [
    .mandatory "_key" Json.readText fun document key => { document with key },
    .mandatory "qname" Json.readText fun document qname => { document with qname },
    .optional "name" Json.readText fun document name => { document with name },
    .mandatory "kind" Json.readText fun document kind => { document with kind },
    .optional "doc" Json.readText fun document doc => { document with doc },
    .optional "filepath" Json.readText fun document filepath => { document with filepath },
    .optional "namespace" Json.readText fun document scope => { document with scope },
    .mandatory "language" Json.readText fun document language => { document with language },
    .optional "pos" Json.readWord fun document start => { document with start },
    .optional "end" Json.readWord fun document stop => { document with stop },
    .mandatory "is_async" Json.readBool fun document isAsync => { document with isAsync },
    .mandatory "is_method" Json.readBool fun document isMethod => { document with isMethod }]

def toValue (document : NodeDocument) : Json.Value :=
  .ofMembers <|
    [("_key", .text document.key), ("qname", .text document.qname)]
      ++ Json.Value.optional "name" .text document.name
      ++ [("kind", .text document.kind)]
      ++ Json.Value.optional "doc" .text document.doc
      ++ Json.Value.optional "filepath" .text document.filepath
      ++ Json.Value.optional "namespace" .text document.scope
      ++ [("language", .text document.language)]
      ++ Json.Value.optional "pos" .ofWord document.start
      ++ Json.Value.optional "end" .ofWord document.stop
      ++ [("is_async", .bool document.isAsync), ("is_method", .bool document.isMethod)]

end NodeDocument

structure GraphNode where
  nodeClass : NodeClass
  document : NodeDocument
  deriving DecidableEq

structure EdgeDocument where
  key : String := ""
  source : String := ""
  target : String := ""
  callSite : Option UInt32 := none
  deriving DecidableEq

namespace EdgeDocument

def format : Json.RecordFormat EdgeDocument where
  name := "EdgeDocument"
  blank := {}
  fields := [
    .mandatory "_key" Json.readText fun document key => { document with key },
    .mandatory "_from" Json.readText fun document source => { document with source },
    .mandatory "_to" Json.readText fun document target => { document with target },
    .optional "call_site_pos" Json.readWord fun document callSite =>
      { document with callSite }]

def toValue (document : EdgeDocument) : Json.Value :=
  .ofMembers <|
    [("_key", .text document.key), ("_from", .text document.source),
      ("_to", .text document.target)]
      ++ Json.Value.optional "call_site_pos" .ofWord document.callSite

end EdgeDocument

structure GraphEdge where
  edgeClass : EdgeClass
  sourceClass : NodeClass
  targetClass : NodeClass
  document : EdgeDocument
  deriving DecidableEq

def nodeHandle (nodeClass : NodeClass) (key : String) : String :=
  nodeClass.name ++ "/" ++ key

end CodeGraph
