import CodeGraph.Json.Record
import CodeGraph.Json.Value

/-!
# Entities and relations

An extractor describes a code base as entities under qualified names, each with the relations it
takes part in.  Every field may be missing.
-/

set_option autoImplicit false

namespace CodeGraph

def nonEmpty? (text : Option String) : Option String :=
  text.filter fun content => !content.isEmpty

inductive EntityKind where
  | classDef
  | function
  | asyncFunction
  | sourceModule
  | assignment
  | augmentedAssignment
  | paramsOf
  | returns
  | importOf
  /-- Every kind of an unknown name. -/
  | other
  deriving DecidableEq

namespace EntityKind

def name : EntityKind → String
  | classDef => "class"
  | function => "function"
  | asyncFunction => "async_function"
  | sourceModule => "module"
  | assignment => "assignment"
  | augmentedAssignment => "augmented_assignment"
  | paramsOf => "params_of"
  | returns => "returns"
  | importOf => "import"
  | other => "other"

def all : List EntityKind :=
  [classDef, function, asyncFunction, sourceModule, assignment, augmentedAssignment, paramsOf,
    returns, importOf, other]

/-- The names of the kinds; an unknown name is that of `other`. -/
def variants : Json.Variants EntityKind :=
  ⟨all.map fun kind => (kind.name, kind), some other⟩

def isFunction : EntityKind → Bool
  | function | asyncFunction => true
  | _ => false

def isAssignment : EntityKind → Bool
  | assignment | augmentedAssignment => true
  | _ => false

end EntityKind

inductive RelationType where
  | calls
  | calledBy
  | inheritsFrom
  | decoratedBy
  | paramOf
  | returns
  | imports
  | classDef
  | functionDef
  | unknown
  deriving DecidableEq

namespace RelationType

def name : RelationType → String
  | calls => "CALLS"
  | calledBy => "CALLED_BY"
  | inheritsFrom => "INHERITS_FROM"
  | decoratedBy => "DECORATED_BY"
  | paramOf => "PARAM_OF"
  | returns => "RETURNS"
  | imports => "IMPORTS"
  | classDef => "CLASS_DEF"
  | functionDef => "FUNCTION_DEF"
  | unknown => "UNKNOWN"

def all : List RelationType :=
  [calls, calledBy, inheritsFrom, decoratedBy, paramOf, returns, imports, classDef, functionDef,
    unknown]

/-- The names of the relation types; an unknown name is that of `unknown`. -/
def variants : Json.Variants RelationType :=
  ⟨all.map fun relationType => (relationType.name, relationType), some unknown⟩

end RelationType

structure SourceSpan where
  start : Option UInt32 := none
  stop : Option UInt32 := none
  deriving DecidableEq

namespace SourceSpan

def format : Json.RecordFormat SourceSpan where
  name := "SourceSpan"
  blank := {}
  fields := [
    .defaulted "start" Json.readWord fun span start => { span with start },
    .defaulted "end" Json.readWord fun span stop => { span with stop }]

def toValue (span : SourceSpan) : Json.Value :=
  .ofMembers [("start", .ofWord? span.start), ("end", .ofWord? span.stop)]

end SourceSpan

structure Relation where
  relationType : Option RelationType := none
  source : Option String := none
  target : Option String := none
  span : Option SourceSpan := none
  deriving DecidableEq

namespace Relation

def between (relationType : RelationType) (source target : String) : Relation :=
  ⟨some relationType, some source, some target, none⟩

def atLine (relation : Relation) (line : UInt32) : Relation :=
  { relation with span := some ⟨some line, none⟩ }

def format : Json.RecordFormat Relation where
  name := "Relation"
  blank := {}
  fields := [
    .defaulted "rel_type" RelationType.variants.read fun relation relationType =>
      { relation with relationType },
    .defaulted "source" Json.readText fun relation source => { relation with source },
    .defaulted "target" Json.readText fun relation target => { relation with target },
    .defaulted "pos" SourceSpan.format.read fun relation span => { relation with span }]

def toValue (relation : Relation) : Json.Value :=
  .ofMembers [
    ("rel_type", .ofText? (relation.relationType.map RelationType.name)),
    ("source", .ofText? relation.source),
    ("target", .ofText? relation.target),
    ("pos", relation.span.elim .null SourceSpan.toValue)]

end Relation

/-- An entity; its qualified name stands outside. -/
structure Entity where
  name : Option String := none
  kind : Option EntityKind := none
  docstring : Option String := none
  filepath : Option String := none
  parent : Option String := none
  code : Option String := none
  span : Option SourceSpan := none
  relations : List Relation := []
  deriving DecidableEq

namespace Entity

def named (name : String) (kind : EntityKind) : Entity :=
  { name := some name, kind := some kind }

def inside (entity : Entity) (parent : String) : Entity :=
  { entity with parent := some parent }

def relate (entity : Entity) (relation : Relation) : Entity :=
  { entity with relations := entity.relations ++ [relation] }

def start? (entity : Entity) : Option UInt32 :=
  entity.span.bind SourceSpan.start

def stop? (entity : Entity) : Option UInt32 :=
  entity.span.bind SourceSpan.stop

def format : Json.RecordFormat Entity where
  name := "EntityRecord"
  blank := {}
  fields := [
    .defaulted "name" Json.readText fun entity name => { entity with name },
    .defaulted "kind" EntityKind.variants.read fun entity kind => { entity with kind },
    .defaulted "docstring" Json.readText fun entity docstring => { entity with docstring },
    .defaulted "filepath" Json.readText fun entity filepath => { entity with filepath },
    .defaulted "parent_qualified_name" Json.readText fun entity parent =>
      { entity with parent },
    .defaulted "code" Json.readText fun entity code => { entity with code },
    .defaulted "pos" SourceSpan.format.read fun entity span => { entity with span },
    .omittable "relations" (Json.readList Relation.format.read) fun entity relations =>
      { entity with relations }]

def toValue (entity : Entity) : Json.Value :=
  .ofMembers [
    ("name", .ofText? entity.name),
    ("kind", .ofText? (entity.kind.map EntityKind.name)),
    ("docstring", .ofText? entity.docstring),
    ("filepath", .ofText? entity.filepath),
    ("parent_qualified_name", .ofText? entity.parent),
    ("code", .ofText? entity.code),
    ("pos", entity.span.elim .null SourceSpan.toValue),
    ("relations", .array (entity.relations.map Relation.toValue))]

end Entity

end CodeGraph
