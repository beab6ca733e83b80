import ComponentStyles.Proofs.Tree.Preorder

/-!
# Where functions and imports stand in the tree of a script

`Outline.exists_declares`: a function declaration in the tree of a script is a statement of its
program, or the declaration of an `export` or `export default` among them. There is none inside an
expression, an import, or another function. So the functions in the tree are those that its statements
declare (`Outline.function_mem_preorder_iff`), and what stands there as imported is what its import
declarations import (`Outline.importPart_mem_preorder_iff`).

Proof. By induction on expressions, everything below the node of an expression is the node of an
expression or of an element of one (`Expression.isElementNode_of_mem_preorder`). What else can stand
below a statement is said once, by cases on the statement (`Statement.mem_preorder_inversion`).
-/

namespace ComponentStyles

namespace Node

def isExpression : Node → Bool
  | .callExpression .. | .arrayExpression .. | .assignmentExpression .. | .identifier ..
  | .literal .. | .other .. => true
  | _ => false

def isFunction : Node → Bool
  | .functionDeclaration .. => true
  | _ => false

/-- The statement declares the function: it is the function, or exports it. -/
inductive Declares : Node → Node → Prop where
  | itself (n : Node) : Declares n n
  | named (span : Span) (n : Node) (source : Option Node) :
    Declares (.exportNamedDeclaration span (some n) source) n
  | default (span : Span) (n : Node) : Declares (.exportDefaultDeclaration span n) n

theorem Declares.mem_preorder {s n : Node} (h : s.Declares n) : n ∈ s.preorder := by
  cases h with
  | itself => exact s.self_mem_preorder
  | named span _ source => exact mem_preorder_of_mem_children (List.mem_singleton_self n)
  | default span _ => exact mem_preorder_of_mem_children (List.mem_singleton_self n)

theorem isExpression_eq_false_of_isFunction {n : Node} (h : n.isFunction = true) :
    n.isExpression = false := by
  cases n with
  | functionDeclaration _ _ _ _ _ => rfl
  | _ => cases h

theorem preorder_of_children_eq_nil {n : Node} (h : n.children = []) : n.preorder = [n] := by
  rw [preorder_eq, h, List.flatMap_nil]

end Node

namespace Script

open Node (preorder isExpression isFunction Declares mem_preorder_iff preorder_of_children_eq_nil)

/-! ### Expressions -/

theorem forall_mem_preorder_of_children {P : Node → Prop} {root : Node} (hroot : P root)
    (hchildren : ∀ child ∈ root.children, ∀ n ∈ child.preorder, P n) : ∀ n ∈ root.preorder, P n := by
  intro n hn
  rcases mem_preorder_iff.mp hn with rfl | ⟨child, hchild, hn⟩
  · exact hroot
  · exact hchildren child hchild n hn

theorem forall_mem_preorder_of_leaf {P : Node → Prop} {leaf : Node} (hchildren : leaf.children = [])
    (hleaf : P leaf) : ∀ n ∈ leaf.preorder, P n := by
  rw [preorder_of_children_eq_nil hchildren]
  exact List.forall_mem_singleton.mpr hleaf

def IsElementNode (n : Node) : Prop := ∃ e : Element, n = e.toNode

theorem Expression.isElementNode (e : Expression) : IsElementNode e.toNode := ⟨.item e, rfl⟩

mutual

theorem Expression.isElementNode_of_mem_preorder :
    ∀ e : Expression, ∀ n ∈ e.toNode.preorder, IsElementNode n
  | .parenthesized _ inner => inner.isElementNode_of_mem_preorder
  | .call span callee arguments =>
    forall_mem_preorder_of_children (Expression.call span callee arguments).isElementNode
      (isElementNode_of_mem_elements arguments)
  | .array span elements =>
    forall_mem_preorder_of_children (Expression.array span elements).isElementNode
      (isElementNode_of_mem_elements elements)
  | .assignment span operator target value =>
    forall_mem_preorder_of_children (Expression.assignment span operator target value).isElementNode
      (List.forall_mem_singleton.mpr value.isElementNode_of_mem_preorder)
  | .identifier name => forall_mem_preorder_of_leaf rfl (Expression.identifier name).isElementNode
  | .string part => forall_mem_preorder_of_leaf rfl (Expression.string part).isElementNode
  | .number span x => forall_mem_preorder_of_leaf rfl (Expression.number span x).isElementNode
  | .boolean span x => forall_mem_preorder_of_leaf rfl (Expression.boolean span x).isElementNode
  | .null span => forall_mem_preorder_of_leaf rfl (Expression.null span).isElementNode
  | .member span => forall_mem_preorder_of_leaf rfl (Expression.member span).isElementNode
  | .privateMember span =>
    forall_mem_preorder_of_leaf rfl (Expression.privateMember span).isElementNode
  | .typed span inner => forall_mem_preorder_of_leaf rfl (Expression.typed span inner).isElementNode
  | .object span properties =>
    forall_mem_preorder_of_leaf rfl (Expression.object span properties).isElementNode
  | .leaf kind span => forall_mem_preorder_of_leaf rfl (Expression.leaf kind span).isElementNode

theorem Element.isElementNode_of_mem_preorder :
    ∀ e : Element, ∀ n ∈ e.toNode.preorder, IsElementNode n
  | .item value => value.isElementNode_of_mem_preorder
  | .spread span value => forall_mem_preorder_of_leaf rfl ⟨.spread span value, rfl⟩
  | .hole span => forall_mem_preorder_of_leaf rfl ⟨.hole span, rfl⟩

theorem isElementNode_of_mem_elements :
    ∀ es : List Element, ∀ child ∈ elementsToNodes es, ∀ n ∈ child.preorder, IsElementNode n
  | [] => fun _ h => absurd h List.not_mem_nil
  | e :: es =>
    List.forall_mem_cons.mpr ⟨e.isElementNode_of_mem_preorder, isElementNode_of_mem_elements es⟩

end

theorem Expression.isExpression_toNode : ∀ e : Expression, e.toNode.isExpression = true
  | .parenthesized _ inner => inner.isExpression_toNode
  | .call _ _ _ | .array _ _ | .assignment _ _ _ _ | .identifier _ | .string _ | .number _ _
  | .boolean _ _ | .null _ | .member _ | .privateMember _ | .typed _ _ | .object _ _
  | .leaf _ _ => rfl

theorem isExpression_of_isElementNode {n : Node} (h : IsElementNode n) : n.isExpression = true := by
  obtain ⟨e, rfl⟩ := h
  cases e with
  | item value => exact value.isExpression_toNode
  | spread _ _ => rfl
  | hole _ => rfl

/-! ### Statements -/

/-- The function that a statement declares, directly or as what it exports. -/
def Statement.function? : Statement → Option FunctionPart
  | .function part => some part
  | .exportNamed _ (some (.function part)) _ => some part
  | .exportDefault _ (.function part) => some part
  | _ => none

def Statement.importParts : Statement → List ImportPart
  | .importDeclaration _ _ parts => parts
  | _ => []

theorem FunctionPart.toNode_injective {f g : FunctionPart} (h : f.toNode = g.toNode) : f = g := by
  cases f
  cases g
  cases h
  rfl

theorem ImportPart.toNode_injective {part other : ImportPart} (h : part.toNode = other.toNode) :
    part = other := by
  cases part <;> cases other <;> cases h <;> rfl

variable {n : Node}

theorem eq_of_mem_leaf {leaf : Node} (hchildren : leaf.children = []) (h : n ∈ leaf.preorder) :
    n = leaf := by
  rwa [preorder_of_children_eq_nil hchildren, List.mem_singleton] at h

/-- What stands in the tree of a statement is the statement itself, the function that it declares,
something that it imports, an element of an expression, or a declaration of which only the kind is
kept. -/
theorem Statement.mem_preorder_inversion (s : Statement) (h : n ∈ s.toNode.preorder) :
    n = s.toNode ∨ (∃ f, s.function? = some f ∧ n = f.toNode) ∨
      (∃ part ∈ s.importParts, n = part.toNode) ∨ IsElementNode n ∨
        ∃ (kind : LeafDeclaration) (span : Span), n = .other span kind.tag := by
  rcases mem_preorder_iff.mp h with rfl | ⟨child, hchild, h⟩
  · exact .inl rfl
  right
  cases s with
  | importDeclaration _ _ parts =>
    obtain ⟨part, hpart, rfl⟩ := List.mem_map.mp hchild
    exact .inr (.inl ⟨part, hpart, by cases part <;> exact eq_of_mem_leaf rfl h⟩)
  | exportNamed _ declaration _ =>
    obtain ⟨d, rfl, rfl⟩ := Option.map_eq_some_iff.mp (Option.mem_toList.mp hchild)
    cases d with
    | function part => exact .inl ⟨part, rfl, eq_of_mem_leaf rfl h⟩
    | leaf kind span => exact .inr (.inr (.inr ⟨kind, span, eq_of_mem_leaf rfl h⟩))
  | exportDefault _ value =>
    obtain rfl := List.mem_singleton.mp hchild
    cases value with
    | function part => exact .inl ⟨part, rfl, eq_of_mem_leaf rfl h⟩
    | expression value => exact .inr (.inr (.inl (value.isElementNode_of_mem_preorder n h)))
    | classDecl span => exact .inr (.inr (.inr ⟨.classDecl, span, eq_of_mem_leaf rfl h⟩))
    | other span => exact .inr (.inr (.inr ⟨.other, span, eq_of_mem_leaf rfl h⟩))
  | expression _ value =>
    obtain rfl := List.mem_singleton.mp hchild
    exact .inr (.inr (.inl (value.isElementNode_of_mem_preorder n h)))
  | _ => exact absurd hchild List.not_mem_nil

theorem Statement.mem_preorder_cases (hn : n.isExpression = false) (s : Statement)
    (h : n ∈ s.toNode.preorder) :
    n = s.toNode ∨ (∃ f, s.function? = some f ∧ n = f.toNode) ∨
      ∃ part ∈ s.importParts, n = part.toNode := by
  rcases s.mem_preorder_inversion h with h | h | h | h | ⟨kind, span, rfl⟩
  · exact .inl h
  · exact .inr (.inl h)
  · exact .inr (.inr h)
  · rw [isExpression_of_isElementNode h] at hn
    cases hn
  · cases hn

theorem Statement.declares_of_function? {s : Statement} {f : FunctionPart}
    (h : s.function? = some f) : s.toNode.Declares f.toNode := by
  unfold function? at h
  split at h
  all_goals cases h
  · exact .itself _
  · exact .named _ _ _
  · exact .default _ _

theorem Statement.declares (hn : n.isFunction = true) (s : Statement)
    (h : n ∈ s.toNode.preorder) : s.toNode.Declares n := by
  rcases s.mem_preorder_cases (Node.isExpression_eq_false_of_isFunction hn) h with
    rfl | ⟨f, hf, rfl⟩ | ⟨part, _, rfl⟩
  · exact .itself _
  · exact declares_of_function? hf
  · cases part <;> cases hn

theorem Outline.mem_preorder_iff {o : Outline} (hn : n ≠ o.toNode) :
    n ∈ o.toNode.preorder ↔ ∃ s ∈ o.statements, n ∈ s.toNode.preorder := by
  rw [Node.mem_preorder_iff]
  constructor
  · rintro (h | ⟨child, hchild, h⟩)
    · exact absurd h hn
    · obtain ⟨s, hs, rfl⟩ := List.mem_map.mp hchild
      exact ⟨s, hs, h⟩
  · rintro ⟨s, hs, h⟩
    exact .inr ⟨_, List.mem_map_of_mem hs, h⟩

theorem Outline.exists_declares (hn : n.isFunction = true) {o : Outline}
    (h : n ∈ o.toNode.preorder) : ∃ s ∈ o.toNode.children, s.Declares n := by
  have hne : n ≠ o.toNode := by
    rintro rfl
    cases hn
  obtain ⟨s, hs, h⟩ := (Outline.mem_preorder_iff hne).mp h
  exact ⟨s.toNode, List.mem_map_of_mem hs, s.declares hn h⟩

theorem Outline.function_mem_preorder_iff {o : Outline} {f : FunctionPart} :
    f.toNode ∈ o.toNode.preorder ↔ ∃ s ∈ o.statements, s.function? = some f := by
  rw [Outline.mem_preorder_iff (by simp [FunctionPart.toNode, Outline.toNode])]
  constructor
  · rintro ⟨s, hs, h⟩
    refine ⟨s, hs, ?_⟩
    rcases s.mem_preorder_cases rfl h with heq | ⟨g, hg, heq⟩ | ⟨part, _, heq⟩
    · cases s with
      | function part => exact congrArg some (FunctionPart.toNode_injective heq).symm
      | _ => cases heq
    · rw [hg, FunctionPart.toNode_injective heq]
    · cases part <;> cases heq
  · rintro ⟨s, hs, h⟩
    exact ⟨s, hs, (Statement.declares_of_function? h).mem_preorder⟩

theorem Outline.importPart_mem_preorder_iff {o : Outline} {part : ImportPart} :
    part.toNode ∈ o.toNode.preorder ↔ ∃ s ∈ o.statements, part ∈ s.importParts := by
  rw [Outline.mem_preorder_iff (by cases part <;> simp [ImportPart.toNode, Outline.toNode])]
  constructor
  · rintro ⟨s, hs, h⟩
    refine ⟨s, hs, ?_⟩
    rcases s.mem_preorder_cases (by cases part <;> rfl) h with heq | ⟨g, _, heq⟩ | ⟨other, hother, heq⟩
    · cases part <;> cases s <;> cases heq
    · cases part <;> cases heq
    · rwa [ImportPart.toNode_injective heq]
  · rintro ⟨s, hs, h⟩
    refine ⟨s, hs, ?_⟩
    cases s with
    | importDeclaration _ _ parts =>
      exact Node.mem_preorder_of_mem_children (List.mem_map_of_mem h)
    | _ => exact absurd h List.not_mem_nil

end Script

end ComponentStyles
