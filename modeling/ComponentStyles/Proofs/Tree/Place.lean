import ComponentStyles.Proofs.Tree.Preorder
import Mathlib.Data.List.FinRange

/-!
# Places in a tree

A node may stand in a tree more than once, so what tells the nodes of a walk apart is where they
stand. A place says which child to go on to, from the root on. `mem_occurrences_iff`: the occurrences
of a tree are the nodes at its places, and they stand in the order of the places
(`pairwise_occurrences`), in which a node comes before everything below it and below one child comes
before below the next. Without the places they are the preorder (`map_snd_occurrences`).

Proof. By induction on the tree along its children, or on the place.
-/

namespace ComponentStyles

/-- Where a node stands in a tree: the numbers of the children to go on to, from the root on. -/
abbrev Place := List Nat

namespace Node

def at? : Node → Place → Option Node
  | n, [] => some n
  | n, i :: place => n.children[i]?.bind fun child => child.at? place

/-- The nodes of a tree, each with its place, in the order in which a walk reaches them. -/
def occurrences (n : Node) : List (Place × Node) :=
  ([], n) :: (List.finRange n.children.length).flatMap fun i =>
    n.children[i.val].occurrences.map fun o => (i.val :: o.1, o.2)
termination_by sizeOf n
decreasing_by exact sizeOf_lt_of_mem_children (List.getElem_mem _)

variable {n m : Node} {place : Place}

theorem mem_occurrences_cons_iff {i : Nat} :
    (i :: place, m) ∈ n.occurrences ↔
      ∃ child, n.children[i]? = some child ∧ (place, m) ∈ child.occurrences := by
  rw [occurrences, List.mem_cons, List.mem_flatMap]
  constructor
  · rintro (h | ⟨j, _, hj⟩)
    · cases h
    · obtain ⟨⟨place', m'⟩, ho, heq⟩ := List.mem_map.mp hj
      cases heq
      exact ⟨_, List.getElem?_eq_getElem j.isLt, ho⟩
  · rintro ⟨child, hchild, ho⟩
    obtain ⟨hi, rfl⟩ := List.getElem?_eq_some_iff.mp hchild
    exact Or.inr ⟨⟨i, hi⟩, List.mem_finRange _, List.mem_map.mpr ⟨(place, m), ho, rfl⟩⟩

theorem mem_occurrences_nil_iff : (([] : Place), m) ∈ n.occurrences ↔ n = m := by
  rw [occurrences, List.mem_cons, List.mem_flatMap]
  constructor
  · rintro (h | ⟨i, _, hi⟩)
    · exact (Prod.mk.inj h).2.symm
    · obtain ⟨o, _, heq⟩ := List.mem_map.mp hi
      cases heq
  · rintro rfl
    exact Or.inl rfl

theorem mem_occurrences_iff : (place, m) ∈ n.occurrences ↔ n.at? place = some m := by
  induction place generalizing n with
  | nil => rw [mem_occurrences_nil_iff, at?, Option.some_inj]
  | cons i place ih =>
    rw [mem_occurrences_cons_iff, at?, Option.bind_eq_some_iff]
    exact exists_congr fun child => and_congr_right fun _ => ih

/-- A node occurs before all below it, and what is below a child before what is below the next. -/
theorem pairwise_occurrences (n : Node) : n.occurrences.Pairwise fun a b => a.1 < b.1 := by
  induction n using children_induction with
  | step n ih =>
    rw [occurrences, List.pairwise_cons, List.pairwise_flatMap]
    refine ⟨fun o ho => ?_, fun i _ => ?_, ?_⟩
    · obtain ⟨i, _, hi⟩ := List.mem_flatMap.mp ho
      obtain ⟨o, _, rfl⟩ := List.mem_map.mp hi
      exact List.nil_lt_cons _ _
    · refine List.pairwise_map.mpr ((ih _ (List.getElem_mem i.isLt)).imp fun {a b} hab => ?_)
      exact List.cons_lt_cons_iff.mpr (Or.inr ⟨rfl, hab⟩)
    · refine (List.pairwise_lt_finRange _).imp fun {i j} hij a ha b hb => ?_
      obtain ⟨a, _, rfl⟩ := List.mem_map.mp ha
      obtain ⟨b, _, rfl⟩ := List.mem_map.mp hb
      exact List.cons_lt_cons_iff.mpr (Or.inl hij)

theorem nodup_places (n : Node) : (n.occurrences.map Prod.fst).Nodup := by
  refine List.pairwise_map.mpr ((pairwise_occurrences n).imp fun {a b} hlt heq => ?_)
  rw [heq] at hlt
  exact List.lt_irrefl b.1 hlt

theorem map_snd_occurrences (n : Node) : n.occurrences.map Prod.snd = n.preorder := by
  induction n using children_induction with
  | step n ih =>
    have hchildren : ∀ i : Fin n.children.length,
        (n.children[i.val].occurrences.map fun o => (i.val :: o.1, o.2)).map Prod.snd
          = n.children[i.val].preorder := by
      intro i
      rw [List.map_map, ← ih _ (List.getElem_mem i.isLt)]
      rfl
    rw [occurrences, preorder_eq, List.map_cons, List.map_flatMap, funext hchildren,
      ← List.flatMap_map, List.map_getElem_finRange]

end Node

end ComponentStyles
