import ComponentStyles.Proofs.Tree.Place
import Mathlib.Data.List.Induction

/-!
# Walks that end early

`traverse_shows`: a walk shows its visitor the occurrences of the tree in their order, each of them
once, and no further than to the first at which the visitor ends the walk. It gives the node of that
occurrence, or none after it has shown all of them. This holds of every visitor, whatever it keeps in
its state of what it has seen.

Proof. A walk goes through the preorder (`traverse_eq_visitAll`). For a list of nodes there is a first
node at which the visitor ends, or none (`passes_or_exists_first`), and in both cases the walk of the
list is known. A visitor that notes down what it is shown ends where the visitor itself does
(`endsAt_noting_iff`), so the same is known of its notes.
-/

namespace ComponentStyles

variable {σ : Type}

namespace Visitor

variable (visit : Visitor σ) (s : σ)

/-- The state of a visitor that has been shown nodes one after the other. -/
def after (ns : List Node) : σ :=
  ns.foldl (fun s n => (visit n s).2) s

/-- Shown these nodes one after the other, the visitor ends the walk at the last of them. -/
def EndsAt (ns : List Node) : Prop :=
  ∃ front n, ns = front ++ [n] ∧ (visit n (visit.after s front)).1 = true

def Passes (ns : List Node) : Prop :=
  ∀ front, front <+: ns → ¬ visit.EndsAt s front

/-- A visitor that also notes down the nodes that it is shown. -/
def noting : Visitor (List Node × σ) := fun n noted =>
  ((visit n noted.2).1, (noted.1 ++ [n], (visit n noted.2).2))

variable {visit s} {front ns rest seen : List Node} {n : Node}

theorem after_concat : visit.after s (ns ++ [n]) = (visit n (visit.after s ns)).2 := by
  rw [after, List.foldl_append]
  rfl

theorem endsAt_concat_iff :
    visit.EndsAt s (ns ++ [n]) ↔ (visit n (visit.after s ns)).1 = true := by
  constructor
  · rintro ⟨front, m, heq, hend⟩
    obtain ⟨rfl, hm⟩ := List.append_inj' heq rfl
    obtain rfl := List.singleton_inj.mp hm
    exact hend
  · intro hend
    exact ⟨ns, n, rfl, hend⟩

theorem not_endsAt_nil : ¬ visit.EndsAt s [] := by
  rintro ⟨front, n, heq, _⟩
  exact absurd heq (by simp)

theorem passes_concat_iff :
    visit.Passes s (ns ++ [n]) ↔ visit.Passes s ns ∧ ¬ visit.EndsAt s (ns ++ [n]) := by
  constructor
  · intro h
    exact ⟨fun front hfront => h front (hfront.trans (List.prefix_append _ _)), h _ List.prefix_rfl⟩
  · rintro ⟨h, hlast⟩ front hfront
    rcases List.prefix_concat_iff.mp hfront with rfl | hfront
    · exact hlast
    · exact h front hfront

theorem passes_or_exists_first (visit : Visitor σ) (s : σ) (ns : List Node) :
    visit.Passes s ns ∨
      ∃ front n rest, ns = front ++ [n] ++ rest ∧ visit.Passes s front ∧
        visit.EndsAt s (front ++ [n]) := by
  induction ns using List.reverseRecOn with
  | nil =>
    left
    intro front hfront
    rw [List.prefix_nil.mp hfront]
    exact not_endsAt_nil
  | append_singleton ns n ih =>
    rcases ih with hpasses | ⟨front, m, rest, rfl, hpasses, hend⟩
    · by_cases hend : visit.EndsAt s (ns ++ [n])
      · exact Or.inr ⟨ns, n, [], (List.append_nil _).symm, hpasses, hend⟩
      · exact Or.inl (passes_concat_iff.mpr ⟨hpasses, hend⟩)
    · exact Or.inr ⟨front, m, rest ++ [n], List.append_assoc .., hpasses, hend⟩

/-! ### Walks of lists -/

theorem visitAll_of_passes (h : visit.Passes s ns) :
    Node.visitAll visit ns s = (none, visit.after s ns) := by
  induction ns using List.reverseRecOn with
  | nil => rfl
  | append_singleton ns n ih =>
    obtain ⟨hpasses, hlast⟩ := passes_concat_iff.mp h
    rw [endsAt_concat_iff, Bool.not_eq_true] at hlast
    rw [Node.visitAll_append, ih hpasses, after_concat]
    show Node.visitAll visit [n] (visit.after s ns) = _
    rw [Node.visitAll]
    rcases hvisit : visit n (visit.after s ns) with ⟨stop, s'⟩
    rw [hvisit] at hlast
    obtain rfl : stop = false := hlast
    rfl

theorem visitAll_of_endsAt (h : visit.Passes s front) (hend : visit.EndsAt s (front ++ [n]))
    (rest : List Node) :
    Node.visitAll visit (front ++ [n] ++ rest) s = (some n, visit.after s (front ++ [n])) := by
  rw [endsAt_concat_iff] at hend
  rw [List.append_assoc, Node.visitAll_append, visitAll_of_passes h, after_concat]
  show Node.visitAll visit (n :: rest) (visit.after s front) = _
  rw [Node.visitAll]
  rcases hvisit : visit n (visit.after s front) with ⟨stop, s'⟩
  rw [hvisit] at hend
  obtain rfl : stop = true := hend
  rfl

/-! ### Notes -/

theorem after_noting : visit.noting.after (seen, s) ns = (seen ++ ns, visit.after s ns) := by
  induction ns using List.reverseRecOn with
  | nil => rw [List.append_nil]; rfl
  | append_singleton ns n ih =>
    rw [after_concat, after_concat, ih, noting, List.append_assoc]

theorem endsAt_noting_iff : visit.noting.EndsAt (seen, s) ns ↔ visit.EndsAt s ns := by
  rw [EndsAt, EndsAt]
  refine exists_congr fun front => exists_congr fun n => and_congr_right fun _ => ?_
  rw [after_noting]
  rfl

theorem passes_noting_iff : visit.noting.Passes (seen, s) ns ↔ visit.Passes s ns :=
  forall_congr' fun _ => imp_congr_right fun _ => not_congr endsAt_noting_iff

end Visitor

namespace Node

open Visitor (passes_or_exists_first visitAll_of_passes visitAll_of_endsAt after_noting
  endsAt_noting_iff passes_noting_iff passes_concat_iff)

/-! ### Walks of trees -/

/-- What a walk shows is a part of the occurrences from the first on, at places of their own. The
visitor ends the walk at the last of them and not before, or it goes on behind each of them and they
are all there are. -/
theorem traverse_shows (visit : Visitor σ) (root : Node) (s : σ) :
    ∃ (shown : List (Place × Node)) (stopped : Option Node),
      let nodes := shown.map Prod.snd
      traverse visit root s = (stopped, visit.after s nodes) ∧
      traverse visit.noting root ([], s) = (stopped, nodes, visit.after s nodes) ∧
      shown <+: root.occurrences ∧ (shown.map Prod.fst).Nodup ∧
      (visit.EndsAt s nodes ∧ visit.Passes s nodes.dropLast ∧ stopped = nodes.getLast? ∨
        visit.Passes s nodes ∧ shown = root.occurrences ∧ stopped = none) := by
  rcases passes_or_exists_first visit s root.preorder with
    hpasses | ⟨front, n, rest, hnodes, hpasses, hend⟩
  · refine ⟨root.occurrences, none, ?_⟩
    dsimp only
    rw [map_snd_occurrences, traverse_eq_visitAll, traverse_eq_visitAll,
      visitAll_of_passes hpasses, visitAll_of_passes (passes_noting_iff.mpr hpasses), after_noting,
      List.nil_append]
    exact ⟨rfl, rfl, List.prefix_rfl, nodup_places root, Or.inr ⟨hpasses, rfl, rfl⟩⟩
  · -- the occurrences of the nodes up to the one at which the walk ends
    obtain ⟨shown, others, hshown, hfront, _⟩ :
        ∃ shown others, root.occurrences = shown ++ others ∧
          shown.map Prod.snd = front ++ [n] ∧ others.map Prod.snd = rest :=
      List.map_eq_append_iff.mp ((map_snd_occurrences root).trans hnodes)
    refine ⟨shown, some n, ?_⟩
    dsimp only
    rw [hfront, traverse_eq_visitAll, traverse_eq_visitAll, hnodes,
      visitAll_of_endsAt hpasses hend,
      visitAll_of_endsAt (passes_noting_iff.mpr hpasses) (endsAt_noting_iff.mpr hend), after_noting,
      List.nil_append, List.dropLast_concat, List.getLast?_concat]
    have hfirst : shown <+: root.occurrences := ⟨others, hshown.symm⟩
    exact ⟨rfl, rfl, hfirst, (nodup_places root).sublist (hfirst.sublist.map _),
      Or.inl ⟨hend, hpasses, rfl⟩⟩

end Node

end ComponentStyles
