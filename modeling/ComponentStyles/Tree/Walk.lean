import ComponentStyles.Tree.Node

/-!
# Walking a tree

A walk visits a node before its children and stops for good as soon as the visitor says so. The
visitor has a state of its own, which may decide when it stops.
-/

namespace ComponentStyles

/-- What a visitor answers: whether the walk ends here, and its state. -/
abbrev Visitor (σ : Type) := Node → σ → Bool × σ

namespace Node

variable {σ : Type} (visit : Visitor σ)

mutual

/-- Walks a node and everything below it; gives the node at which the walk ended, if it did not
run to the end, and the last state of the visitor. -/
def traverse : Node → σ → Option Node × σ
  | n, s =>
    match visit n s with
    | (true, s) => (some n, s)
    | (false, s) =>
      match n with
      | .program _ body => traverseList body s
      | .importDeclaration _ _ specifiers => traverseList specifiers s
      | .exportNamedDeclaration _ declaration _ => traverseOption declaration s
      | .exportDefaultDeclaration _ declaration => traverse declaration s
      | .expressionStatement _ expression => traverse expression s
      | .callExpression _ _ arguments => traverseList arguments s
      | .arrayExpression _ elements => traverseList elements s
      | .assignmentExpression _ _ _ right => traverse right s
      | _ => (none, s)

def traverseList : List Node → σ → Option Node × σ
  | [], s => (none, s)
  | n :: rest, s =>
    match traverse n s with
    | (some stopped, s) => (some stopped, s)
    | (none, s) => traverseList rest s

/-- Walks a node that may be missing. -/
def traverseOption : Option Node → σ → Option Node × σ
  | none, s => (none, s)
  | some n, s => traverse n s

end

end Node

end ComponentStyles
