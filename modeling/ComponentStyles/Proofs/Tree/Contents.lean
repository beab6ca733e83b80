import ComponentStyles.Proofs.Tree.Attribute
import ComponentStyles.Proofs.Tree.Preorder

/-!
# What a tree is made of

A walk does not go everywhere: the source of an import, the callee of a call and the target of an
assignment are in the tree, but they are no children. `Node.Holds` lists what a node of each kind
holds and under which name; these are the nodes that its attributes consist of (`holds_iff`). A tree
contains its root and whatever the nodes in it hold (`Node.Contains`), and what holds of a node and
is handed on to all that it holds is true of everything that its tree contains (`Contains.induct`).
What a walk reaches is among that (`contains_of_mem_preorder`).
-/

namespace ComponentStyles

def Attribute.held : Attribute → List Node
  | .node n => [n]
  | .nodes ns => ns
  | .data _ => []

theorem Attribute.mem_held_elim {n? : Option Node} {n : Node} :
    n ∈ (n?.elim (Attribute.data .null) Attribute.node).held ↔ n? = some n := by
  cases n? with
  | none => exact iff_of_false List.not_mem_nil nofun
  | some _ => exact List.mem_singleton.trans (eq_comm.trans Option.some_inj.symm)

namespace Node

/-- The first node holds the other under the name. -/
inductive Holds : Node → String → Node → Prop where
  | statement {span : Span} {body : List Node} {n : Node} :
    n ∈ body → Holds (.program span body) "body" n
  | importSource {span : Span} {source : Node} {specifiers : List Node} :
    Holds (.importDeclaration span source specifiers) "source" source
  | specifier {span : Span} {source n : Node} {specifiers : List Node} :
    n ∈ specifiers → Holds (.importDeclaration span source specifiers) "specifiers" n
  | declaration {span : Span} {n : Node} {source : Option Node} :
    Holds (.exportNamedDeclaration span (some n) source) "declaration" n
  | exportSource {span : Span} {declaration : Option Node} {n : Node} :
    Holds (.exportNamedDeclaration span declaration (some n)) "source" n
  | default {span : Span} {n : Node} : Holds (.exportDefaultDeclaration span n) "declaration" n
  | expression {span : Span} {n : Node} : Holds (.expressionStatement span n) "expression" n
  | callee {span : Span} {n : Node} {arguments : List Node} :
    Holds (.callExpression span n arguments) "callee" n
  | argument {span : Span} {callee n : Node} {arguments : List Node} :
    n ∈ arguments → Holds (.callExpression span callee arguments) "arguments" n
  | element {span : Span} {n : Node} {elements : List Node} :
    n ∈ elements → Holds (.arrayExpression span elements) "elements" n
  | left {span : Span} {operator : String} {n right : Node} :
    Holds (.assignmentExpression span operator n right) "left" n
  | right {span : Span} {operator : String} {left n : Node} :
    Holds (.assignmentExpression span operator left n) "right" n

/-- The node is the root of the tree, or a node in the tree holds it. -/
inductive Contains (root : Node) : Node → Prop where
  | root : Contains root root
  | held {p n : Node} {name : String} : Contains root p → p.Holds name n → Contains root n

variable {root p n : Node} {name : String}

theorem holds_of_mem_fields {a : Attribute} (ha : (name, a) ∈ p.fields) (hn : n ∈ a.held) :
    p.Holds name n := by
  cases p <;> grind [fields, Attribute.held, Attribute.mem_held_elim, Holds]

theorem holds_iff : p.Holds name n ↔ ∃ a, p.field? name = some a ∧ n ∈ a.held := by
  constructor
  · intro h
    cases h with
    | statement hn | specifier hn | argument hn | element hn => exact ⟨_, rfl, hn⟩
    | _ => exact ⟨_, rfl, List.mem_singleton_self _⟩
  · rintro ⟨a, ha, hn⟩
    rw [field?_eq_lookup, List.lookup_eq_some_iff] at ha
    obtain ⟨front, rest, hfields, _⟩ := ha
    have hmem : (name, a) ∈ p.attributes := by
      rw [hfields]
      exact List.mem_append_cons_self
    simp only [attributes, List.mem_cons, Prod.mk.injEq] at hmem
    rcases hmem with ⟨_, rfl⟩ | ⟨_, rfl⟩ | ⟨_, rfl⟩ | hmem
    · exact absurd hn List.not_mem_nil
    · exact absurd hn List.not_mem_nil
    · exact absurd hn List.not_mem_nil
    · exact holds_of_mem_fields hmem hn

/-! ### Everything in a tree -/

theorem Contains.induct {P : Node → Prop} (hroot : P root)
    (hstep : ∀ {p name n}, P p → p.Holds name n → P n) (h : root.Contains n) : P n := by
  induction h with
  | root => exact hroot
  | held _ hn ih => exact hstep ih hn

theorem exists_holds_of_mem_children (h : n ∈ p.children) : ∃ name, p.Holds name n := by
  cases p with
  | program _ _ => exact ⟨_, .statement h⟩
  | importDeclaration _ _ _ => exact ⟨_, .specifier h⟩
  | exportNamedDeclaration _ declaration _ =>
    obtain rfl : declaration = some n := Option.mem_toList.mp h
    exact ⟨_, .declaration⟩
  | callExpression _ _ _ => exact ⟨_, .argument h⟩
  | arrayExpression _ _ => exact ⟨_, .element h⟩
  | exportDefaultDeclaration _ _ =>
    obtain rfl := List.mem_singleton.mp h
    exact ⟨_, .default⟩
  | expressionStatement _ _ =>
    obtain rfl := List.mem_singleton.mp h
    exact ⟨_, .expression⟩
  | assignmentExpression _ _ _ _ =>
    obtain rfl := List.mem_singleton.mp h
    exact ⟨_, .right⟩
  | _ => exact absurd h List.not_mem_nil

theorem contains_of_mem_preorder (h : n ∈ root.preorder) : root.Contains n :=
  forall_mem_preorder
    (fun _ hp _ hchild => (exists_holds_of_mem_children hchild).elim fun _ hn => .held hp hn)
    .root n h

end Node

end ComponentStyles
