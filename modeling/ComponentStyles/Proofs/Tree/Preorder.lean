import ComponentStyles.Tree.OfText
import ComponentStyles.Tree.Search

/-!
# Walks follow the preorder

The preorder of a tree lists each node before what its children list (`preorder_eq`).
`traverse_eq_visitAll`: a walk shows the visitor the preorder one by one until it is told to stop,
so that a search finds just the matching nodes of the preorder (`search_eq_filter`).

Proof. By induction on the tree along the children of a node (`children_induction`), which is how
all facts about walks are proved: the cases of the syntax matter only to `traverse_eq` and
`preorder_eq`.
-/

namespace ComponentStyles.Node

variable {σ : Type} (visit : Visitor σ)

/-! ### Children -/

theorem sizeOf_lt_of_mem_children {n child : Node} (h : child ∈ n.children) :
    sizeOf child < sizeOf n := by
  have hlist : ∀ ns : List Node, child ∈ ns → sizeOf child < sizeOf ns :=
    fun ns hns => List.sizeOf_lt_of_mem hns
  cases n with
  | program _ body => have := hlist body h; simp only [program.sizeOf_spec]; omega
  | importDeclaration _ _ specifiers =>
    have := hlist specifiers h
    simp only [importDeclaration.sizeOf_spec]
    omega
  | exportNamedDeclaration _ declaration _ =>
    obtain rfl : declaration = some child := Option.mem_toList.mp h
    simp only [exportNamedDeclaration.sizeOf_spec, Option.some.sizeOf_spec]
    omega
  | exportDefaultDeclaration _ _ | expressionStatement _ _ | assignmentExpression _ _ _ _ =>
    obtain rfl := List.mem_singleton.mp h
    simp only [exportDefaultDeclaration.sizeOf_spec, expressionStatement.sizeOf_spec,
      assignmentExpression.sizeOf_spec]
    omega
  | callExpression _ _ arguments =>
    have := hlist arguments h
    simp only [callExpression.sizeOf_spec]
    omega
  | arrayExpression _ elements =>
    have := hlist elements h
    simp only [arrayExpression.sizeOf_spec]
    omega
  | _ => exact absurd h List.not_mem_nil

theorem children_induction {motive : Node → Prop}
    (step : ∀ n, (∀ child ∈ n.children, motive child) → motive n) (n : Node) : motive n := by
  induction hsize : sizeOf n using Nat.strongRecOn generalizing n with
  | _ size ih =>
    subst hsize
    exact step n fun child hchild => ih _ (sizeOf_lt_of_mem_children hchild) child rfl

/-! ### The preorder -/

def preorder (n : Node) : List Node :=
  n :: n.children.attach.flatMap fun ⟨child, _⟩ => child.preorder
termination_by sizeOf n
decreasing_by exact sizeOf_lt_of_mem_children ‹_›

theorem preorder_eq (n : Node) : n.preorder = n :: n.children.flatMap preorder := by
  rw [preorder, List.flatMap_subtype (g := preorder) fun _ _ => rfl, List.unattach_attach]

theorem mem_preorder_iff {root n : Node} :
    n ∈ root.preorder ↔ n = root ∨ ∃ child ∈ root.children, n ∈ child.preorder := by
  rw [preorder_eq, List.mem_cons, List.mem_flatMap]

theorem self_mem_preorder (n : Node) : n ∈ n.preorder :=
  mem_preorder_iff.mpr (.inl rfl)

theorem mem_preorder_of_mem_children {n child : Node} (h : child ∈ n.children) :
    child ∈ n.preorder :=
  mem_preorder_iff.mpr (.inr ⟨child, h, child.self_mem_preorder⟩)

theorem forall_mem_preorder {p : Node → Prop}
    (hchildren : ∀ n, p n → ∀ child ∈ n.children, p child) {root : Node} (hroot : p root) :
    ∀ n ∈ root.preorder, p n := by
  induction root using children_induction with
  | step root ih =>
    intro n hn
    rcases mem_preorder_iff.mp hn with rfl | ⟨child, hchild, hn⟩
    · exact hroot
    · exact ih child hchild (hchildren root hroot child hchild) n hn

/-! ### Walks -/

/-- Shows nodes to a visitor one by one until it says to stop. -/
def visitAll : List Node → σ → Option Node × σ
  | [], s => (none, s)
  | n :: rest, s =>
    match visit n s with
    | (true, s) => (some n, s)
    | (false, s) => visitAll rest s

theorem visitAll_append (front rest : List Node) (s : σ) :
    visitAll visit (front ++ rest) s
      = match visitAll visit front s with
        | (some stopped, s) => (some stopped, s)
        | (none, s) => visitAll visit rest s := by
  induction front generalizing s with
  | nil => rfl
  | cons n front ih =>
    rw [List.cons_append, visitAll, visitAll]
    split
    · rfl
    · exact ih _

theorem traverseList_singleton (n : Node) (s : σ) :
    traverseList visit [n] s = traverse visit n s := by
  rcases h : traverse visit n s with ⟨_ | stopped, s'⟩ <;> rw [traverseList, h]
  rfl

theorem traverse_eq (n : Node) (s : σ) :
    traverse visit n s
      = match visit n s with
        | (true, s) => (some n, s)
        | (false, s) => traverseList visit n.children s := by
  rcases hvisit : visit n s with ⟨_ | _, s'⟩
  · rw [traverse, hvisit]
    cases n with
    | exportNamedDeclaration _ declaration _ =>
      cases declaration with
      | none => rfl
      | some n => exact (traverseList_singleton visit n s').symm
    | exportDefaultDeclaration _ n => exact (traverseList_singleton visit n s').symm
    | expressionStatement _ n => exact (traverseList_singleton visit n s').symm
    | assignmentExpression _ _ _ n => exact (traverseList_singleton visit n s').symm
    | _ => rfl
  · rw [traverse, hvisit]

theorem traverseList_eq_visitAll {ns : List Node}
    (hns : ∀ n ∈ ns, ∀ s, traverse visit n s = visitAll visit n.preorder s) (s : σ) :
    traverseList visit ns s = visitAll visit (ns.flatMap preorder) s := by
  induction ns generalizing s with
  | nil => rfl
  | cons n ns ih =>
    rw [traverseList, hns n List.mem_cons_self, List.flatMap_cons, visitAll_append]
    rcases visitAll visit n.preorder s with ⟨_ | stopped, s'⟩
    · exact ih (fun m hm => hns m (List.mem_cons_of_mem n hm)) s'
    · rfl

/-- A walk goes through the preorder. -/
theorem traverse_eq_visitAll (n : Node) (s : σ) :
    traverse visit n s = visitAll visit n.preorder s := by
  induction n using children_induction generalizing s with
  | step n ih =>
    rw [traverse_eq, preorder_eq, visitAll]
    rcases visit n s with ⟨_ | _, s'⟩
    · exact traverseList_eq_visitAll visit ih s'
    · rfl

/-! ### Searches -/

theorem visitAll_collect (test : Node → Bool) (ns found : List Node) :
    visitAll (fun n found => (false, if test n then n :: found else found)) ns found
      = (none, (ns.filter test).reverse ++ found) := by
  induction ns generalizing found with
  | nil => rfl
  | cons n ns ih =>
    rw [visitAll]
    dsimp only
    rw [ih, List.filter_cons]
    by_cases h : test n = true
    · rw [if_pos h, if_pos h, List.reverse_cons, List.append_assoc, List.singleton_append]
    · rw [if_neg h, if_neg h]

theorem search_eq_filter (root : Node) (tag : String) (constraints : List Constraint) :
    root.search tag constraints = root.preorder.filter (isMatch tag constraints) := by
  rw [search, traverse_eq_visitAll, visitAll_collect, List.append_nil, List.reverse_reverse]

theorem mem_search_iff {root n : Node} {tag : String} {constraints : List Constraint} :
    n ∈ root.search tag constraints ↔ n ∈ root.preorder ∧ n.isMatch tag constraints = true := by
  rw [search_eq_filter, List.mem_filter]

/-! ### Nodes that fit the text -/

theorem listFits_eq_all (code : Text) (ns : List Node) :
    Module.listFits code ns = ns.all (Module.fits code) := by
  induction ns with
  | nil => rfl
  | cons n ns ih => rw [Module.listFits, ih, List.all_cons]

theorem fits_of_mem_children {code : Text} {n child : Node} (h : Module.fits code n = true)
    (hchild : child ∈ n.children) : Module.fits code child = true := by
  have hlist : ∀ ns, Module.listFits code ns = true → child ∈ ns →
      Module.fits code child = true := by
    intro ns hns hmem
    rw [listFits_eq_all] at hns
    exact List.all_eq_true.mp hns child hmem
  cases n with
  | program _ body => exact hlist body h hchild
  | importDeclaration _ _ specifiers =>
    rw [Module.fits, Bool.and_eq_true] at h
    exact hlist specifiers h.2 hchild
  | exportNamedDeclaration _ declaration _ =>
    obtain rfl : declaration = some child := Option.mem_toList.mp hchild
    rw [Module.fits, Bool.and_eq_true] at h
    exact h.1
  | exportDefaultDeclaration _ _ | expressionStatement _ _ =>
    obtain rfl := List.mem_singleton.mp hchild
    exact h
  | callExpression _ _ arguments =>
    rw [Module.fits, Bool.and_eq_true] at h
    exact hlist arguments h.2 hchild
  | arrayExpression _ elements => exact hlist elements h hchild
  | assignmentExpression _ _ _ _ =>
    obtain rfl := List.mem_singleton.mp hchild
    rw [Module.fits, Bool.and_eq_true] at h
    exact h.2
  | _ => exact absurd hchild List.not_mem_nil

theorem fits_of_mem_preorder {code : Text} {root n : Node} (h : Module.fits code root = true)
    (hn : n ∈ root.preorder) : Module.fits code n = true :=
  forall_mem_preorder (fun _ h _ hchild => fits_of_mem_children h hchild) h n hn

end ComponentStyles.Node
