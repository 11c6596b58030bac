import CodeGraph.Classification

/-!
# Routing

A routing table remembers the class of every entity that became a node.
-/

set_option autoImplicit false

namespace CodeGraph

structure RoutingTable where
  classes : KeyMap NodeClass

namespace RoutingTable

def empty : RoutingTable := ⟨.empty⟩

def insert (table : RoutingTable) (qname : String) (nodeClass : NodeClass) : RoutingTable :=
  ⟨table.classes.insert qname nodeClass⟩

def ofList (entries : List (String × NodeClass)) : RoutingTable :=
  ⟨.ofList entries⟩

/-- The table with the names of another one, whose classes count. -/
def extend (table other : RoutingTable) : RoutingTable :=
  ⟨table.classes.union other.classes⟩

def resolve? (table : RoutingTable) (qname : String) : Option NodeClass :=
  table.classes.get? qname

def contains (table : RoutingTable) (qname : String) : Bool :=
  table.classes.contains qname

def size (table : RoutingTable) : Nat :=
  table.classes.size

def isEmpty (table : RoutingTable) : Bool :=
  table.classes.isEmpty

def count (table : RoutingTable) (nodeClass : NodeClass) : Nat :=
  table.classes.values.count nodeClass

def counts (table : RoutingTable) : List (NodeClass × Nat) :=
  (NodeClass.all.map fun nodeClass => (nodeClass, table.count nodeClass)).filter fun entry =>
    entry.2 ≠ 0

def ofEntities (graph : EntityGraph) (entries : List (String × Entity)) : RoutingTable :=
  .ofList <| entries.filterMap fun entry =>
    (entry.2.nodeClass? graph).map fun nodeClass => (entry.1, nodeClass)

def ofGraph (graph : EntityGraph) : RoutingTable :=
  .ofEntities graph graph.toList

end RoutingTable

end CodeGraph
