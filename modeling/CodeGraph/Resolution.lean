import CodeGraph.Routing

/-!
# Resolution

A relation becomes an edge when both of its ends are nodes and its edge class may join them.  A
call of a type leads to the initializer of the type, and the parent of a definition may be a module
that the table does not hold.
-/

set_option autoImplicit false

namespace CodeGraph

inductive Unresolved where
  /-- The type, the source or the target is missing. -/
  | missingField
  | unmappedType
  /-- The relation mirrors one that gives the edge. -/
  | inverseType
  | unknownSource
  | unknownTarget
  /-- The type that is called has no initializer. -/
  | missingInitializer
  | constraintViolation
  deriving DecidableEq

namespace Unresolved

def name : Unresolved → String
  | missingField => "missing_field"
  | unmappedType => "unmapped_rel_type"
  | inverseType => "inverse_rel_type"
  | unknownSource => "unknown_source"
  | unknownTarget => "unknown_target"
  | missingInitializer => "missing_initializer"
  | constraintViolation => "constraint_violation"

/-- Every reason, in the order in which they are reported. -/
def all : List Unresolved :=
  [missingField, unmappedType, inverseType, unknownSource, unknownTarget, missingInitializer,
    constraintViolation]

end Unresolved

def initializerOf (qname : String) : String :=
  qname ++ ".__init__"

structure Endpoint where
  qname : String
  nodeClass? : Option NodeClass

/-- The target of an edge of a class.  A call of a type is one of its initializer; a parent that is
a module of the graph need not be routed. -/
def effectiveTarget (table : RoutingTable) (graph : EntityGraph) (edgeClass : EdgeClass)
    (target : String) : Except Unresolved Endpoint :=
  match edgeClass, table.resolve? target with
  | .calls, some .types =>
      match table.resolve? (initializerOf target) with
      | some nodeClass => .ok ⟨initializerOf target, some nodeClass⟩
      | none => .error .missingInitializer
  | .parent, none =>
      if graph.kindOf? target = some .sourceModule then .ok ⟨target, some .modules⟩
      else .ok ⟨target, none⟩
  | _, nodeClass? => .ok ⟨target, nodeClass?⟩

def RelationType.edgeClass (relationType : RelationType) : Except Unresolved EdgeClass :=
  match relationType.mapping with
  | .edge edgeClass => .ok edgeClass
  | .inverse => .error .inverseType
  | .unmapped => .error .unmappedType

def Relation.callSite (relation : Relation) (edgeClass : EdgeClass) : Option UInt32 :=
  if edgeClass = .calls then
    (relation.span.bind SourceSpan.start).filter fun line => line > 0
  else
    none

def orElse {α : Type} (reason : Unresolved) : Option α → Except Unresolved α
  | some value => .ok value
  | none => .error reason

def Relation.resolve (relation : Relation) (table : RoutingTable) (graph : EntityGraph) :
    Except Unresolved GraphEdge := do
  let relationType ← orElse .missingField relation.relationType
  let source ← orElse .missingField (nonEmpty? relation.source)
  let target ← orElse .missingField (nonEmpty? relation.target)
  let edgeClass ← relationType.edgeClass
  let endpoint ← effectiveTarget table graph edgeClass target
  let sourceClass ← orElse .unknownSource (table.resolve? source)
  let targetClass ← orElse .unknownTarget endpoint.nodeClass?
  if !edgeClass.permits sourceClass targetClass then
    throw .constraintViolation
  return {
    edgeClass
    sourceClass
    targetClass
    document := {
      key := edgeKey source endpoint.qname relationType.name
      source := nodeHandle sourceClass (storageKey source)
      target := nodeHandle targetClass (storageKey endpoint.qname)
      callSite := relation.callSite edgeClass } }

def Relation.droppedEvent (relation : Relation) (reason : Unresolved) : Event :=
  ⟨.trace, "Dropped " ++ (relation.relationType.map RelationType.name).getD "?" ++ " "
    ++ relation.source.getD "?" ++ " -> " ++ relation.target.getD "?" ++ ": " ++ reason.name⟩

end CodeGraph
