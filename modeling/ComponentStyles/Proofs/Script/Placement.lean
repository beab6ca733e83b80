import ComponentStyles.Proofs.Script.Tree
import ComponentStyles.Proofs.Tree.Contents
import ComponentStyles.Proofs.Tree.Search

/-!
# What stands where in the tree of a script

`Outline.laidOut`: whatever the statements of a script are, its tree is a program with one node for
each of them. Functions are statements or what a statement exports, the parts of an import stand
nowhere but in import declarations, and an expression is made of calls, arrays, assignments, names,
literals and leaves, however deep, and also where no walk goes. No leaf has the tag of another kind
of nodes, so that a search for such a tag finds nodes of that kind only
(`Outline.isLeaf_eq_false_of_mem_search`).

Proof. `Outline.Places` lists who holds whom in the tree of a script. What is placed there places
what it holds (`Outline.Places.step`), so by induction along the tree everything is on the list
(`Outline.places_of_holds`), and each part of the statement is read off it. The nodes of expressions
are closed in themselves (`InExpression.step`).
-/

namespace ComponentStyles

namespace Node

/-! ### Kinds of nodes -/

/-- Nodes that keep nothing but a tag. -/
def isLeaf : Node → Bool
  | .other .. => true
  | _ => false

def isStatement : Node → Bool
  | .importDeclaration .. | .exportNamedDeclaration .. | .exportDefaultDeclaration ..
  | .functionDeclaration .. | .expressionStatement .. | .other .. => true
  | _ => false

def isImport : Node → Bool
  | .importDeclaration .. => true
  | _ => false

def isExport : Node → Bool
  | .exportNamedDeclaration .. | .exportDefaultDeclaration .. => true
  | _ => false

/-- The nodes that stand as statements only. -/
def isStatementOnly : Node → Bool
  | .importDeclaration .. | .exportNamedDeclaration .. | .exportDefaultDeclaration ..
  | .expressionStatement .. => true
  | _ => false

def isSpecifier : Node → Bool
  | .importSpecifier .. | .importDefaultSpecifier .. | .importNamespaceSpecifier .. => true
  | _ => false

theorem isExpression_eq_false_of_isSpecifier {n : Node} (h : n.isSpecifier = true) :
    n.isExpression = false := by
  cases n with
  | importSpecifier _ _ _ | importDefaultSpecifier _ _ | importNamespaceSpecifier _ _ => rfl
  | _ => cases h

theorem isExpression_eq_false_of_isStatementOnly {n : Node} (h : n.isStatementOnly = true) :
    n.isExpression = false := by
  cases n with
  | importDeclaration _ _ _ | exportNamedDeclaration _ _ _ | exportDefaultDeclaration _ _
  | expressionStatement _ _ => rfl
  | _ => cases h

/-! ### Tags -/

def IsKindTag (tag : String) : Prop := ∃ n : Node, n.isLeaf = false ∧ n.tag = tag

def kindTags : List String :=
  ["Program", "ImportDeclaration", "ImportSpecifier", "ImportDefaultSpecifier",
    "ImportNamespaceSpecifier", "ExportNamedDeclaration", "ExportDefaultDeclaration",
    "FunctionDeclaration", "ExpressionStatement", "CallExpression", "ArrayExpression",
    "AssignmentExpression", "Identifier", "Literal"]

theorem IsKindTag.mem_kindTags {tag : String} (h : IsKindTag tag) : tag ∈ kindTags := by
  obtain ⟨n, hn, rfl⟩ := h
  cases n with
  | other _ _ => cases hn
  | _ => simp [tag, kindTags]

/-- If the node is a leaf, its tag is not that of another kind of nodes. -/
def HasOwnTag (n : Node) : Prop := n.isLeaf = true → ¬ IsKindTag n.tag

theorem hasOwnTag_other {span : Span} {tag : String} (h : tag ∉ kindTags) :
    (Node.other span tag).HasOwnTag :=
  fun _ hkind => h hkind.mem_kindTags

theorem hasOwnTag_of_isLeaf_eq_false {n : Node} (h : n.isLeaf = false) : n.HasOwnTag := by
  intro hleaf
  rw [h] at hleaf
  cases hleaf

/-- The nodes that expressions are made of. -/
def IsPlain (n : Node) : Prop := n.isExpression = true ∧ n.HasOwnTag

end Node

namespace Script

open Node (Holds Contains IsPlain hasOwnTag_other hasOwnTag_of_isLeaf_eq_false)

variable {n p : Node} {name : String}

/-! ### Expressions -/

/-- The node is that of an expression, of an element of one, or of the target of an assignment. -/
def InExpression (n : Node) : Prop := IsElementNode n ∨ ∃ t : Target, n = t.toNode

theorem Expression.inExpression (e : Expression) : InExpression e.toNode :=
  .inl e.isElementNode

theorem elementsToNodes_eq_map (es : List Element) :
    elementsToNodes es = es.map Element.toNode := by
  induction es with
  | nil => rfl
  | cons e es ih => rw [elementsToNodes, ih, List.map_cons]

theorem inExpression_of_mem_elements {es : List Element} (h : n ∈ elementsToNodes es) :
    InExpression n := by
  rw [elementsToNodes_eq_map] at h
  obtain ⟨e, _, rfl⟩ := List.mem_map.mp h
  exact .inl ⟨e, rfl⟩

-- recursive for parentheses only: there it is the inner expression that becomes the node
theorem Expression.inExpression_of_holds :
    ∀ e : Expression, e.toNode.Holds name n → InExpression n
  | .parenthesized _ inner, h => inner.inExpression_of_holds h
  | .call _ callee _, h => by
    cases h with
    | callee => exact callee.inExpression
    | argument hn => exact inExpression_of_mem_elements hn
  | .array _ _, h => by
    cases h with
    | element hn => exact inExpression_of_mem_elements hn
  | .assignment _ _ target value, h => by
    cases h with
    | left => exact .inr ⟨target, rfl⟩
    | right => exact value.inExpression
  | .identifier _, h | .string _, h | .number _ _, h | .boolean _ _, h | .null _, h
  | .member _, h | .privateMember _, h | .typed _ _, h | .object _ _, h | .leaf _ _, h => by cases h

theorem InExpression.step (hp : InExpression p) (h : p.Holds name n) : InExpression n := by
  obtain ⟨e, rfl⟩ | ⟨t, rfl⟩ := hp
  · cases e with
    | item value => exact value.inExpression_of_holds h
    | spread _ _ | hole _ => cases h
  · cases t <;> cases h

theorem LeafExpression.tag_notMem (kind : LeafExpression) : kind.tag ∉ Node.kindTags := by
  cases kind <;> decide

theorem Expression.hasOwnTag : ∀ e : Expression, e.toNode.HasOwnTag
  | .parenthesized _ inner => inner.hasOwnTag
  | .member _ => hasOwnTag_other (by decide)
  | .privateMember _ | .typed _ _ => hasOwnTag_other LeafExpression.other.tag_notMem
  | .object _ _ => hasOwnTag_other LeafExpression.object.tag_notMem
  | .leaf kind _ => hasOwnTag_other kind.tag_notMem
  | .call _ _ _ | .array _ _ | .assignment _ _ _ _ | .identifier _ | .string _ | .number _ _
  | .boolean _ _ | .null _ => hasOwnTag_of_isLeaf_eq_false rfl

theorem Element.hasOwnTag (e : Element) : e.toNode.HasOwnTag := by
  cases e with
  | item value => exact value.hasOwnTag
  | spread _ _ | hole _ => exact hasOwnTag_other (by decide)

theorem InExpression.isPlain (h : InExpression n) : n.IsPlain := by
  obtain h | ⟨t, rfl⟩ := h
  · refine ⟨isExpression_of_isElementNode h, ?_⟩
    obtain ⟨e, rfl⟩ := h
    exact e.hasOwnTag
  · cases t with
    | name _ => exact ⟨rfl, hasOwnTag_of_isLeaf_eq_false rfl⟩
    | member _ | pattern _ => exact ⟨rfl, hasOwnTag_other (by decide)⟩

theorem InExpression.isPlain_of_contains (hp : InExpression p) (h : p.Contains n) : n.IsPlain :=
  (h.induct hp InExpression.step).isPlain

/-! ### Statements -/

def Statement.span : Statement → Span
  | .importDeclaration span _ _ | .exportNamed span _ _ | .exportDefault span _
  | .expression span _ | .leaf _ span => span
  | .function part => part.span

/-- Who holds whom in the tree of a script. -/
inductive Outline.Places (o : Outline) : Node → String → Node → Prop where
  | statement {s : Statement} : s ∈ o.statements → Places o o.toNode "body" s.toNode
  | importSource {span : Span} {source : StringPart} {parts : List ImportPart} :
    .importDeclaration span source parts ∈ o.statements →
      Places o (Statement.importDeclaration span source parts).toNode "source" source.toNode
  | specifier {span : Span} {source : StringPart} {parts : List ImportPart} (part : ImportPart) :
    .importDeclaration span source parts ∈ o.statements →
      Places o (Statement.importDeclaration span source parts).toNode "specifiers" part.toNode
  | declaration {span : Span} {d : Declaration} {source : Option StringPart} :
    .exportNamed span (some d) source ∈ o.statements →
      Places o (Statement.exportNamed span (some d) source).toNode "declaration" d.toNode
  | exportSource {span : Span} {d : Option Declaration} {source : StringPart} :
    .exportNamed span d (some source) ∈ o.statements →
      Places o (Statement.exportNamed span d (some source)).toNode "source" source.toNode
  | default {span : Span} {value : DefaultExport} :
    .exportDefault span value ∈ o.statements →
      Places o (Statement.exportDefault span value).toNode "declaration" value.toNode
  | expression {span : Span} {value : Expression} :
    .expression span value ∈ o.statements →
      Places o (Statement.expression span value).toNode "expression" value.toNode
  | inExpression {p n : Node} {name : String} :
    InExpression p → p.Holds name n → Places o p name n

variable {o : Outline}

theorem Outline.places_of_holds_root (h : o.toNode.Holds name n) : o.Places o.toNode name n := by
  cases h with
  | statement hn =>
    obtain ⟨s, hs, rfl⟩ := List.mem_map.mp hn
    exact .statement hs

theorem Outline.places_of_holds_statement {s : Statement} (hs : s ∈ o.statements)
    (h : s.toNode.Holds name n) : o.Places s.toNode name n := by
  cases s with
  | importDeclaration span source parts =>
    cases h with
    | importSource => exact .importSource hs
    | specifier hn =>
      obtain ⟨part, _, rfl⟩ := List.mem_map.mp hn
      exact .specifier part hs
  | exportNamed span d source =>
    cases d <;> cases source <;> cases h
    · exact .exportSource hs
    · exact .declaration hs
    · exact .declaration hs
    · exact .exportSource hs
  | exportDefault span value =>
    cases h with
    | default => exact .default hs
  | expression span value =>
    cases h with
    | expression => exact .expression hs
  | function part => cases h
  | leaf kind span => cases h

theorem Outline.Places.step {m : Node} {next : String} (hn : o.Places p name n)
    (h : n.Holds next m) : o.Places n next m := by
  cases hn with
  | statement hs => exact places_of_holds_statement hs h
  | importSource _ => cases h
  | exportSource _ => cases h
  | specifier part _ => cases part <;> cases h
  | @declaration _ d _ _ => cases d <;> cases h
  | @default _ value _ =>
    cases value with
    | expression value => exact .inExpression value.inExpression h
    | _ => cases h
  | expression _ => exact .inExpression (Expression.inExpression _) h
  | inExpression hp hn => exact .inExpression (hp.step hn) h

/-- The node is the root of the tree, or it is placed. -/
def Outline.IsPlaced (o : Outline) (n : Node) : Prop := n = o.toNode ∨ ∃ p name, o.Places p name n

theorem Outline.IsPlaced.places (hp : o.IsPlaced p) (h : p.Holds name n) : o.Places p name n := by
  obtain rfl | ⟨q, next, hq⟩ := hp
  · exact places_of_holds_root h
  · exact hq.step h

theorem Outline.isPlaced_of_contains (h : o.toNode.Contains n) : o.IsPlaced n :=
  h.induct (.inl rfl) fun hp hn => .inr ⟨_, _, hp.places hn⟩

/-- In the tree of a script whatever is held is placed. -/
theorem Outline.places_of_holds (hp : o.toNode.Contains p) (h : p.Holds name n) :
    o.Places p name n :=
  (isPlaced_of_contains hp).places h

/-! ### Tags in the tree -/

theorem LeafStatement.tag_notMem (kind : LeafStatement) : kind.tag ∉ Node.kindTags := by
  cases kind <;> decide

theorem LeafDeclaration.tag_notMem (kind : LeafDeclaration) : kind.tag ∉ Node.kindTags := by
  cases kind <;> decide

theorem Statement.hasOwnTag (s : Statement) : s.toNode.HasOwnTag := by
  cases s with
  | leaf kind _ => exact hasOwnTag_other kind.tag_notMem
  | _ => exact hasOwnTag_of_isLeaf_eq_false rfl

theorem Declaration.hasOwnTag (d : Declaration) : d.toNode.HasOwnTag := by
  cases d with
  | function _ => exact hasOwnTag_of_isLeaf_eq_false rfl
  | leaf kind _ => exact hasOwnTag_other kind.tag_notMem

theorem DefaultExport.hasOwnTag (value : DefaultExport) : value.toNode.HasOwnTag := by
  cases value with
  | function _ => exact hasOwnTag_of_isLeaf_eq_false rfl
  | classDecl _ => exact hasOwnTag_other LeafDeclaration.classDecl.tag_notMem
  | expression value => exact value.hasOwnTag
  | other _ => exact hasOwnTag_other LeafDeclaration.other.tag_notMem

theorem Outline.Places.hasOwnTag (h : o.Places p name n) : n.HasOwnTag := by
  cases h with
  | statement _ => exact Statement.hasOwnTag _
  | importSource _ | exportSource _ => exact hasOwnTag_of_isLeaf_eq_false rfl
  | specifier part _ => exact hasOwnTag_of_isLeaf_eq_false (by cases part <;> rfl)
  | declaration _ => exact Declaration.hasOwnTag _
  | default _ => exact DefaultExport.hasOwnTag _
  | expression _ => exact Expression.hasOwnTag _
  | inExpression hp hn => exact (hp.step hn).isPlain.2

theorem Outline.hasOwnTag_of_contains (h : o.toNode.Contains n) : n.HasOwnTag := by
  obtain rfl | ⟨p, name, hn⟩ := isPlaced_of_contains h
  · exact hasOwnTag_of_isLeaf_eq_false rfl
  · exact hn.hasOwnTag

theorem Outline.isLeaf_eq_false_of_mem_search {tag : String} {constraints : List Constraint}
    (htag : Node.IsKindTag tag) (h : n ∈ o.toNode.search tag constraints) : n.isLeaf = false := by
  obtain ⟨hn, hmatch⟩ := Node.mem_search_iff.mp h
  obtain rfl := (Node.isMatch_iff.mp hmatch).1
  have hown := hasOwnTag_of_contains (Node.contains_of_mem_preorder hn)
  by_contra hleaf
  exact hown (Bool.eq_true_of_not_eq_false hleaf) htag

/-! ### Where nodes of a kind stand -/

theorem Statement.isStatement_toNode (s : Statement) : s.toNode.isStatement = true := by
  cases s <;> rfl

theorem Statement.span_toNode (s : Statement) : s.toNode.span = s.span := by
  cases s <;> rfl

theorem Outline.Places.of_not_isExpression (h : o.Places p name n) (hn : n.isExpression = false) :
    ∃ s ∈ o.statements,
      (p = o.toNode ∧ name = "body" ∧ n = s.toNode) ∨
      (p = s.toNode ∧ p.isExport = true ∧ name = "declaration" ∧
        ∃ f : FunctionPart, n = f.toNode) ∨
      (p = s.toNode ∧ p.isImport = true ∧ name = "specifiers" ∧
        ∃ part : ImportPart, n = part.toNode) := by
  cases h with
  | @statement s hs => exact ⟨s, hs, .inl ⟨rfl, rfl, rfl⟩⟩
  | specifier part hs => exact ⟨_, hs, .inr (.inr ⟨rfl, rfl, rfl, part, rfl⟩)⟩
  | @declaration _ d _ hs =>
    cases d with
    | function f => exact ⟨_, hs, .inr (.inl ⟨rfl, rfl, rfl, f, rfl⟩)⟩
    | leaf _ _ => cases hn
  | @default _ value hs =>
    cases value with
    | function f => exact ⟨_, hs, .inr (.inl ⟨rfl, rfl, rfl, f, rfl⟩)⟩
    | expression value =>
      rw [DefaultExport.toNode, value.isExpression_toNode] at hn
      cases hn
    | classDecl _ | other _ => cases hn
  -- what is left are literals and the nodes of expressions
  | importSource _ | exportSource _ => cases hn
  | @expression _ value _ =>
    rw [value.isExpression_toNode] at hn
    cases hn
  | inExpression hp hn' =>
    rw [(hp.step hn').isPlain.1] at hn
    cases hn

theorem Outline.holds_body {s : Statement} (hs : s ∈ o.statements) :
    o.toNode.Holds "body" s.toNode :=
  .statement (List.mem_map_of_mem hs)

theorem Outline.Places.of_isFunction (h : o.Places p name n) (hn : n.isFunction = true) :
    p = o.toNode ∧ name = "body" ∨
      o.toNode.Holds "body" p ∧ p.isExport = true ∧ name = "declaration" := by
  obtain ⟨s, hs, ⟨hp, hname, _⟩ | ⟨rfl, hp, hname, _⟩ | ⟨_, _, _, part, rfl⟩⟩ :=
    h.of_not_isExpression (Node.isExpression_eq_false_of_isFunction hn)
  · exact .inl ⟨hp, hname⟩
  · exact .inr ⟨holds_body hs, hp, hname⟩
  · cases part <;> cases hn

theorem Outline.Places.of_isSpecifier (h : o.Places p name n) (hn : n.isSpecifier = true) :
    p.isImport = true ∧ name = "specifiers" := by
  obtain ⟨s, _, ⟨_, _, rfl⟩ | ⟨_, _, _, f, rfl⟩ | ⟨_, hp, hname, _⟩⟩ :=
    h.of_not_isExpression (Node.isExpression_eq_false_of_isSpecifier hn)
  · cases s <;> cases hn
  · cases hn
  · exact ⟨hp, hname⟩

theorem Outline.exists_statement_of_contains (h : o.toNode.Contains n)
    (hn : n.isStatementOnly = true) : ∃ s ∈ o.statements, n = s.toNode := by
  obtain rfl | ⟨p, name, hplaced⟩ := isPlaced_of_contains h
  · cases hn
  obtain ⟨s, hs, ⟨_, _, hn'⟩ | ⟨_, _, _, f, rfl⟩ | ⟨_, _, _, part, rfl⟩⟩ :=
    hplaced.of_not_isExpression (Node.isExpression_eq_false_of_isStatementOnly hn)
  · exact ⟨s, hs, hn'⟩
  · cases hn
  · cases part <;> cases hn

theorem Outline.importDeclaration_parts {span : Span} {source : Node} {specifiers : List Node}
    (h : o.toNode.Contains (.importDeclaration span source specifiers)) :
    (∃ sourceSpan text, source = .literal sourceSpan (.string text)) ∧
      ∀ n ∈ specifiers, n.isSpecifier = true := by
  obtain ⟨s, _, heq⟩ := exists_statement_of_contains h rfl
  cases s with
  | importDeclaration _ part parts =>
    obtain ⟨rfl, rfl, rfl⟩ := Node.importDeclaration.inj heq
    refine ⟨⟨part.span, part.value, rfl⟩, fun n hn => ?_⟩
    obtain ⟨part, _, rfl⟩ := List.mem_map.mp hn
    cases part <;> rfl
  | _ => cases heq

theorem Outline.isPlain_of_expressionStatement {span : Span} {e : Node}
    (h : o.toNode.Contains (.expressionStatement span e)) (hn : e.Contains n) : n.IsPlain := by
  obtain ⟨s, _, heq⟩ := exists_statement_of_contains h rfl
  cases s with
  | expression _ value =>
    obtain ⟨rfl, rfl⟩ := Node.expressionStatement.inj heq
    exact value.inExpression.isPlain_of_contains hn
  | _ => cases heq

/-! ### The layout -/

/-- What stands where in the tree of a script. -/
structure Outline.LaidOut (o : Outline) (root : Node) : Prop where
  /-- The root is a program with one node for each statement, in their order. -/
  statements : ∃ body, root = .program o.span body ∧
    List.Forall₂ (fun s n => n = s.toNode ∧ n.span = s.span ∧ n.isStatement = true)
      o.statements body
  /-- A function is a statement, or what a statement exports. -/
  functions : ∀ p name n, root.Contains p → p.Holds name n → n.isFunction = true →
    p = root ∧ name = "body" ∨ root.Holds "body" p ∧ p.isExport = true ∧ name = "declaration"
  /-- The parts of an import stand in an import declaration. -/
  specifiers : ∀ p name n, root.Contains p → p.Holds name n → n.isSpecifier = true →
    p.isImport = true ∧ name = "specifiers"
  /-- An import declaration has a text as its source, and nothing else but parts of an import. -/
  imports : ∀ span source specifiers, root.Contains (.importDeclaration span source specifiers) →
    (∃ sourceSpan text, source = .literal sourceSpan (.string text)) ∧
      ∀ n ∈ specifiers, n.isSpecifier = true
  /-- All of an expression that is a statement is plain. -/
  expressions : ∀ span e, root.Contains (.expressionStatement span e) →
    ∀ n, e.Contains n → n.IsPlain
  /-- An expression that is exported stands in the export, and all of it is plain. -/
  exported : ∀ span value, .exportDefault span (.expression value) ∈ o.statements →
    root.Holds "body" (.exportDefaultDeclaration span value.toNode) ∧
      ∀ n, value.toNode.Contains n → n.IsPlain
  /-- Leaves have tags of their own. -/
  leaves : ∀ n, root.Contains n → n.HasOwnTag

/-- The tree of a script is laid out in this way, whatever its statements are. -/
theorem Outline.laidOut (o : Outline) : o.LaidOut o.toNode where
  statements := by
    refine ⟨_, rfl, List.forall₂_map_right_iff.mpr (List.forall₂_same.mpr fun s _ => ?_)⟩
    exact ⟨rfl, s.span_toNode, s.isStatement_toNode⟩
  functions _ _ _ hp hn := (places_of_holds hp hn).of_isFunction
  specifiers _ _ _ hp hn := (places_of_holds hp hn).of_isSpecifier
  imports _ _ _ h := importDeclaration_parts h
  expressions _ _ h _ hn := isPlain_of_expressionStatement h hn
  exported _ value hs :=
    ⟨holds_body hs, fun _ hn => value.inExpression.isPlain_of_contains hn⟩
  leaves _ hn := hasOwnTag_of_contains hn

/-- Functions in expressions are no declarations, nor is one that is exported as a value. -/
example :
    (Module.ofText "export default (function g() \x7b\x7d);\nf([function h() \x7b\x7d]);".toList
      "/a.js".toList).toOption.any (fun m => (m.root.search "FunctionDeclaration" []).isEmpty)
      = true := by
  decide +kernel

end Script

end ComponentStyles
