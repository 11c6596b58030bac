import CodeGraph.Document
import CodeGraph.EntityGraph
import CodeGraph.Text.Split

/-!
# Classification

The class of an entity follows from its kind.  Only assignments have to look further: one inside a
function body is no member.  The graph names no scopes, so an assignment counts as local when it
stands below another assignment or nowhere at all.
-/

set_option autoImplicit false

namespace CodeGraph

/-- What the name of an entity below an assignment has in it. -/
def assignmentMarker : List Char := ".assignment.".toList

/-- Follows the parents of a name up to one that has no entity, or that came before.  Every entity
is met once, so as many rounds as the graph has entities are enough. -/
def EntityGraph.ancestorsFrom (graph : EntityGraph) :
    Nat → List String → Option String → List Entity
  | 0, _, _ => []
  | _, _, none => []
  | rounds + 1, seen, some qname =>
      if seen.contains qname then
        []
      else
        match graph.get? qname with
        | none => []
        | some entity => entity :: graph.ancestorsFrom rounds (qname :: seen) entity.parent

def EntityGraph.ancestors (graph : EntityGraph) (qname : String) : List Entity :=
  graph.ancestorsFrom graph.size [] (some qname)

def Entity.isAssignment (entity : Entity) : Bool :=
  entity.kind.any EntityKind.isAssignment

/-- Whether an assignment counts as local to a function: it has no parent, or its parent's name has
the marker of an assignment in it, or an assignment is among its ancestors. -/
def Entity.isFunctionLocal (entity : Entity) (graph : EntityGraph) : Bool :=
  match entity.parent with
  | none => true
  | some parent =>
      Text.occurs assignmentMarker parent.toList
        || (graph.ancestors parent).any Entity.isAssignment

def Entity.nodeClass? (entity : Entity) (graph : EntityGraph) : Option NodeClass := do
  let kind ← entity.kind
  let nodeClass ← kind.nodeClass?
  if kind.isAssignment && entity.isFunctionLocal graph then none else some nodeClass

/-- The kind that a document states: every function is a plain one. -/
def EntityKind.plain (kind : EntityKind) : EntityKind :=
  if kind.isFunction then function else kind

def Entity.isMethod (entity : Entity) (graph : EntityGraph) : Bool :=
  entity.kind.any EntityKind.isFunction
    && (entity.parent.bind graph.kindOf?) == some EntityKind.classDef

def Entity.node? (entity : Entity) (qname : String) (graph : EntityGraph) : Option GraphNode := do
  let nodeClass ← entity.nodeClass? graph
  let kind ← entity.kind
  return {
    nodeClass
    document := {
      key := storageKey qname
      qname
      name := entity.name
      kind := kind.plain.name
      doc := entity.docstring
      filepath := entity.filepath
      scope := entity.parent
      language
      start := entity.start?
      stop := entity.stop?
      isAsync := kind == .asyncFunction
      isMethod := entity.isMethod graph } }

def unclassifiedEvent (qname : String) : Event :=
  ⟨.trace, "No node for " ++ qname⟩

def EntityGraph.unclassifiedEvents (graph : EntityGraph) (entries : List (String × Entity)) :
    List Event :=
  (entries.filter fun entry => (entry.2.nodeClass? graph).isNone).map fun entry =>
    unclassifiedEvent entry.1

end CodeGraph
