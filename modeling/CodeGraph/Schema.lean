import CodeGraph.Entity

/-!
# The schema of the property graph

Nodes live in collections by class, edges too.  Tables say which class a kind of entity and a type
of relation belongs to, and which classes an edge may join.
-/

set_option autoImplicit false

namespace CodeGraph

def language : String := "python"

inductive NodeClass where
  | functions
  | types
  | members
  | modules
  | files
  deriving DecidableEq

namespace NodeClass

def name : NodeClass → String
  | functions => "functions"
  | types => "types"
  | members => "members"
  | modules => "modules"
  | files => "files"

/-- Every node class, in the order in which the collections are created. -/
def all : List NodeClass := [functions, types, members, files, modules]

def variants : Json.Variants NodeClass :=
  ⟨[functions, types, members, modules, files].map fun nodeClass => (nodeClass.name, nodeClass),
    none⟩

end NodeClass

inductive EdgeClass where
  | calls
  /-- A type implements a type.  No relation maps here. -/
  | implements
  | inherits
  | returns
  /-- A type is that of a parameter of a function. -/
  | paramOf
  /-- A definition stands inside a type, file or module. -/
  | parent
  | imports
  | decoratedBy
  deriving DecidableEq

namespace EdgeClass

def name : EdgeClass → String
  | calls => "calls"
  | implements => "implements"
  | inherits => "inherits"
  | returns => "returns"
  | paramOf => "param_of"
  | parent => "parent"
  | imports => "imports"
  | decoratedBy => "decorated_by"

/-- Every edge class, in the order in which the collections are created. -/
def all : List EdgeClass :=
  [calls, implements, inherits, returns, paramOf, parent, imports, decoratedBy]

def variants : Json.Variants EdgeClass :=
  ⟨all.map fun edgeClass => (edgeClass.name, edgeClass), none⟩

def sources : EdgeClass → List NodeClass
  | calls => [.functions]
  | implements | inherits => [.types]
  | returns => [.functions]
  | paramOf => [.types]
  | parent => [.functions, .members]
  | imports => [.files, .modules]
  | decoratedBy => [.functions, .types]

def targets : EdgeClass → List NodeClass
  | calls => [.functions]
  | implements | inherits => [.types]
  | returns => [.types]
  | paramOf => [.functions]
  | parent => [.types, .files, .modules]
  | imports => [.modules]
  | decoratedBy => [.functions]

def permits (edgeClass : EdgeClass) (source target : NodeClass) : Bool :=
  edgeClass.sources.contains source && edgeClass.targets.contains target

end EdgeClass

/-- The node class of a kind, whatever the scope; the other kinds never become nodes. -/
def EntityKind.nodeClass? : EntityKind → Option NodeClass
  | classDef => some .types
  | function | asyncFunction => some .functions
  | sourceModule => some .modules
  | assignment | augmentedAssignment => some .members
  | paramsOf | returns | importOf | other => none

/-- What a relation type means for the edges. -/
inductive EdgeMapping where
  | edge (edgeClass : EdgeClass)
  /-- It mirrors another relation, which gives the edge. -/
  | inverse
  | unmapped
  deriving DecidableEq

def RelationType.mapping : RelationType → EdgeMapping
  | calls => .edge .calls
  | calledBy => .inverse
  | inheritsFrom => .edge .inherits
  | decoratedBy => .edge .decoratedBy
  | paramOf => .edge .paramOf
  | returns => .edge .returns
  | imports => .edge .imports
  | classDef | functionDef => .edge .parent
  | unknown => .unmapped

/-- The definition of the property graph: the edge collections and what they may join. -/
def graphDefinition (name : String) : Json.Value :=
  let names (classes : List NodeClass) : Json.Value :=
    .array (classes.map fun nodeClass => .text nodeClass.name)
  .ofMembers [
    ("name", .text name),
    ("edgeDefinitions", .array (EdgeClass.all.map fun edgeClass =>
      .ofMembers [
        ("collection", .text edgeClass.name),
        ("from", names edgeClass.sources),
        ("to", names edgeClass.targets)]))]

end CodeGraph
