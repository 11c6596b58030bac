import CodeGraph.Schema

/-!
# The names of the classes

No two classes share a collection, and the lists of classes are complete.
-/

set_option autoImplicit false

namespace CodeGraph

theorem NodeClass.mem_all (nodeClass : NodeClass) : nodeClass ∈ NodeClass.all := by
  cases nodeClass <;> decide

theorem EdgeClass.mem_all (edgeClass : EdgeClass) : edgeClass ∈ EdgeClass.all := by
  cases edgeClass <;> decide

theorem NodeClass.name_inj {first second : NodeClass} :
    first.name = second.name ↔ first = second := by
  constructor
  · intro same
    cases first <;> cases second <;> first | rfl | exact absurd same (by decide)
  · exact congrArg name

theorem EdgeClass.name_inj {first second : EdgeClass} :
    first.name = second.name ↔ first = second := by
  constructor
  · intro same
    cases first <;> cases second <;> first | rfl | exact absurd same (by decide)
  · exact congrArg name

theorem NodeClass.name_ne_name (nodeClass : NodeClass) (edgeClass : EdgeClass) :
    nodeClass.name ≠ edgeClass.name := by
  cases nodeClass <;> cases edgeClass <;> decide

theorem NodeClass.slash_not_mem_name (nodeClass : NodeClass) : '/' ∉ nodeClass.name.toList := by
  cases nodeClass <;> decide

end CodeGraph
