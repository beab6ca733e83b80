import ComponentStyles.Proofs.Script.Tree
import ComponentStyles.Proofs.Tree.Search

/-!
# The import declarations of a script

`Outline.search_importDeclaration`: a search of the tree of a script for import declarations finds those
among its statements, each once and in the order of the text. Nothing else has their tag, since the
other nodes have tags of their own (`tag_mem_of_isElementNode`), and none of them stands below another
statement.
-/

namespace ComponentStyles.Script

open Node (preorder)

def elementTags : List String :=
  ["CallExpression", "ArrayExpression", "AssignmentExpression", "Identifier", "Literal",
    "MemberExpression", "ArrowFunctionExpression", "FunctionExpression", "ObjectExpression",
    "TemplateLiteral", "ConditionalExpression", "BinaryExpression", "LogicalExpression",
    "UnaryExpression", "SequenceExpression", "NewExpression", "ClassExpression", "AwaitExpression",
    "Expression", "SpreadElement", "Elision"]

theorem LeafExpression.tag_mem (kind : LeafExpression) : kind.tag ∈ elementTags := by
  cases kind <;> decide

theorem Expression.tag_mem : ∀ e : Expression, e.toNode.tag ∈ elementTags
  | .parenthesized _ inner => inner.tag_mem
  | .leaf kind _ => kind.tag_mem
  | .privateMember _ | .typed _ _ => LeafExpression.other.tag_mem
  | .object _ _ => LeafExpression.object.tag_mem
  | .call _ _ _ | .array _ _ | .assignment _ _ _ _ | .identifier _ | .string _ | .number _ _
  | .boolean _ _ | .null _ | .member _ => by
    simp [Expression.toNode, StringPart.toNode, Node.tag, elementTags]

theorem tag_mem_of_isElementNode {n : Node} (h : IsElementNode n) : n.tag ∈ elementTags := by
  obtain ⟨e, rfl⟩ := h
  cases e with
  | item value => exact value.tag_mem
  | spread _ _ => exact (by decide : "SpreadElement" ∈ elementTags)
  | hole _ => exact (by decide : "Elision" ∈ elementTags)

/-! ### Import declarations -/

def Statement.source? : Statement → Option StringPart
  | .importDeclaration _ source _ => some source
  | _ => none

theorem LeafStatement.tag_ne (kind : LeafStatement) : kind.tag ≠ "ImportDeclaration" := by
  cases kind <;> decide

theorem LeafDeclaration.tag_ne (kind : LeafDeclaration) : kind.tag ≠ "ImportDeclaration" := by
  cases kind <;> decide

theorem ImportPart.tag_ne (part : ImportPart) : part.toNode.tag ≠ "ImportDeclaration" := by
  cases part <;> simp [ImportPart.toNode, Node.tag]

theorem FunctionPart.tag_ne (f : FunctionPart) : f.toNode.tag ≠ "ImportDeclaration" := by
  simp [FunctionPart.toNode, Node.tag]

theorem Statement.tag_eq_iff (s : Statement) :
    s.toNode.tag = "ImportDeclaration" ↔ s.source?.isSome = true := by
  cases s with
  | importDeclaration _ _ _ => exact iff_of_true rfl rfl
  | leaf kind _ => exact iff_of_false kind.tag_ne nofun
  | function part => exact iff_of_false part.tag_ne nofun
  | _ => exact iff_of_false (by simp [Statement.toNode, Node.tag]) nofun

theorem Statement.eq_of_mem_preorder {s : Statement} {n : Node} (h : n ∈ s.toNode.preorder)
    (htag : n.tag = "ImportDeclaration") : n = s.toNode := by
  rcases s.mem_preorder_inversion h with
    rfl | ⟨f, _, rfl⟩ | ⟨part, _, rfl⟩ | h | ⟨kind, span, rfl⟩
  · rfl
  · exact absurd htag f.tag_ne
  · exact absurd htag part.tag_ne
  · have hmem := tag_mem_of_isElementNode h
    rw [htag] at hmem
    exact absurd hmem (by decide)
  · exact absurd htag kind.tag_ne

theorem Statement.filter_preorder (s : Statement) :
    s.toNode.preorder.filter (Node.isMatch "ImportDeclaration" [])
      = if s.source?.isSome then [s.toNode] else [] := by
  have hmatch : ∀ n : Node,
      n.isMatch "ImportDeclaration" [] = true ↔ n.tag = "ImportDeclaration" := by
    intro n
    rw [Node.isMatch_iff]
    exact and_iff_left nofun
  cases s with
  | importDeclaration span source parts =>
    rw [Node.preorder_eq, List.filter_cons_of_pos ((hmatch _).mpr rfl)]
    refine congrArg (List.cons _) (List.filter_eq_nil_iff.mpr fun n hn h => ?_)
    obtain ⟨child, hchild, hn⟩ := List.mem_flatMap.mp hn
    obtain ⟨part, _, rfl⟩ := List.mem_map.mp hchild
    obtain rfl : n = part.toNode := by cases part <;> exact eq_of_mem_leaf rfl hn
    exact part.tag_ne ((hmatch _).mp h)
  | _ =>
    refine List.filter_eq_nil_iff.mpr fun n hn h => ?_
    have htag := (hmatch n).mp h
    rw [Statement.eq_of_mem_preorder hn htag, Statement.tag_eq_iff] at htag
    cases htag

theorem Outline.search_importDeclaration (o : Outline) :
    o.toNode.search "ImportDeclaration" []
      = (o.statements.filter fun s => s.source?.isSome).map Statement.toNode := by
  have hroot : ¬ o.toNode.isMatch "ImportDeclaration" [] = true := by
    simp [Outline.toNode, Node.isMatch, Node.tag]
  rw [Node.search_eq_filter, Node.preorder_eq, List.filter_cons_of_neg hroot]
  show ((o.statements.map Statement.toNode).flatMap preorder).filter _ = _
  rw [List.filter_flatMap, List.flatMap_map]
  induction o.statements with
  | nil => rfl
  | cons s statements ih =>
    rw [List.flatMap_cons, ih, s.filter_preorder, List.filter_cons]
    cases s.source?.isSome <;> rfl

end ComponentStyles.Script
