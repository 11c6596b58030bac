import CodeGraph.Entity
import CodeGraph.FileTree
import CodeGraph.Journal

/-!
# The graph of entities

The entities of a code base under their qualified names.  A pass over the graph takes them in the
order of the names, so that every pass is reproducible.
-/

set_option autoImplicit false

namespace CodeGraph

structure EntityGraph where
  entities : KeyMap Entity

namespace EntityGraph

def empty : EntityGraph := ⟨.empty⟩

def insert (graph : EntityGraph) (qname : String) (entity : Entity) : EntityGraph :=
  ⟨graph.entities.insert qname entity⟩

/-- The graph of a list of entities, of which the last under a name counts. -/
def ofList (entries : List (String × Entity)) : EntityGraph :=
  ⟨.ofList entries⟩

def toList (graph : EntityGraph) : List (String × Entity) :=
  graph.entities.entries

def qnames (graph : EntityGraph) : List String :=
  graph.entities.keys

def get? (graph : EntityGraph) (qname : String) : Option Entity :=
  graph.entities.get? qname

def kindOf? (graph : EntityGraph) (qname : String) : Option EntityKind :=
  (graph.get? qname).bind Entity.kind

def contains (graph : EntityGraph) (qname : String) : Bool :=
  graph.entities.contains qname

/-- The relations of all entities, in the order of the names and within an entity in its own. -/
def relations (graph : EntityGraph) : List Relation :=
  graph.toList.flatMap fun entry => entry.2.relations

def size (graph : EntityGraph) : Nat :=
  graph.entities.size

def isEmpty (graph : EntityGraph) : Bool :=
  graph.entities.isEmpty

def toValue (graph : EntityGraph) : Json.Value :=
  .object (graph.toList.map fun entry => (entry.1, entry.2.toValue))

def read : Json.Reader EntityGraph := fun c => do
  let (entities, c) ← Json.readMap Entity.format.read c
  return (⟨entities⟩, c)

def parse (text : List Char) : Except Json.Fault EntityGraph :=
  Json.readAll read text

end EntityGraph

inductive LoadError where
  | notFound (path : String)
  | unreadable (path reason : String)
  | malformed (path : String) (fault : Json.Fault)

def LoadError.message : LoadError → String
  | notFound path => "input file not found: " ++ path
  | unreadable path reason => "failed to read " ++ path ++ ": " ++ reason
  | malformed path fault => "malformed input " ++ path ++ ": " ++ fault.message

def LoadError.ofPathFault (path : String) : PathFault → LoadError
  | .notFound => notFound path
  | fault => unreadable path fault.message

/-- The graph in the content of a file, which has to be a JSON text in UTF-8. -/
def EntityGraph.decode (path : String) (content : ByteArray) : Except LoadError EntityGraph :=
  match String.fromUTF8? content with
  | none => .error (.unreadable path "stream did not contain valid UTF-8")
  | some text => (EntityGraph.parse text.toList).mapError (.malformed path)

def EntityGraph.load (tree : FileTree) (path : String) : Except LoadError EntityGraph :=
  match tree.read path with
  | .error fault => .error (.ofPathFault path fault)
  | .ok content => EntityGraph.decode path content

def EntityGraph.loadedEvent (graph : EntityGraph) (path : String) : Event :=
  ⟨.info, "Loaded " ++ toString graph.size ++ " entities from " ++ path⟩

end CodeGraph
