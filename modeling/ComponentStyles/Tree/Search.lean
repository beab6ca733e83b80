import ComponentStyles.Json.Equality
import ComponentStyles.Tree.Path
import ComponentStyles.Tree.Walk

/-!
# Searching a tree

A search finds the nodes with a tag whose attributes have given values.
-/

namespace ComponentStyles

/-- An attribute and the value it must have. -/
structure Constraint where
  path : AttributePath
  expected : Json

namespace Node

/-- Whether the path leads to a value that equals the expected one. -/
def satisfies (n : Node) (c : Constraint) : Bool :=
  match c.path.resolve n with
  | some actual => actual.agrees c.expected
  | none => false

/-- Whether a node has the tag and all the attributes asked for. -/
def isMatch (tag : String) (constraints : List Constraint) (n : Node) : Bool :=
  n.tag == tag && constraints.all n.satisfies

/-- The matching nodes of a tree in the order in which a walk visits them. -/
def search (root : Node) (tag : String) (constraints : List Constraint) : List Node :=
  let collect : Visitor (List Node) := fun n found =>
    (false, if n.isMatch tag constraints then n :: found else found)
  (root.traverse collect []).2.reverse

end Node

end ComponentStyles
