import ComponentStyles.Proofs.Session.Registry

/-!
# The names of a session

The id of a component is part of its own names, the name of its guard and its placeholder, and of no
others. `names_apart`: in every session that can be reached, the names of one component hold neither the
id nor the placeholder of another one, nor the name of the routine. So texts can be searched for any of
these without finding a part of something else, whatever ids have been drawn.

Proof. An id, and the name of the routine, is a fixed text with as many drawn letters behind it as any
other has. Where it stands in a name it leaves room for few places, and at all of them but one the fixed
texts differ (`eq_of_agrees`, `not_agrees`): none lies so far back that drawn letters alone decide. At the
one that is left, where the id of the name itself stands, the drawn letters are compared as a whole.
-/

namespace ComponentStyles

namespace Component

/-- The names that are made of the id of a component. -/
def names (c : Component) : List Text :=
  [c.id, c.guardName, c.placeholder]

/-- What stands before and behind the id in the names of a component, as far as names go that have no
hash. -/
def surroundings : List (Text × Text) :=
  [([], []), ("_$".toList, []), (placeholderFront, "__".toList)]

/-! ### Places -/

/-- Whether two texts that begin at one place are the same as far as both go. -/
def Agrees (s t : Text) : Prop :=
  s <+: t ∨ t <+: s

instance (s t : Text) : Decidable (Agrees s t) :=
  inferInstanceAs (Decidable (s <+: t ∨ t <+: s))

section Places

variable {mark t front u back : Text}

theorem exists_place_of_infix (hlength : t.length = u.length) (hback : back.length ≤ mark.length)
    (h : mark ++ t <:+: front ++ (u ++ back)) :
    ∃ k, k + mark.length ≤ front.length + back.length ∧ Agrees mark (front.drop k) ∧
      mark ++ t <+: front.drop k ++ (u ++ back) := by
  obtain ⟨before, after, heq⟩ := h
  have hlengths := congrArg List.length heq
  simp only [List.length_append] at hlengths
  have hdrop : (front ++ (u ++ back)).drop before.length = front.drop before.length ++ (u ++ back) :=
    List.drop_append_of_le_length (by omega)
  have hpart : mark ++ t <+: front.drop before.length ++ (u ++ back) := by
    rw [← hdrop, ← heq, List.append_assoc, List.drop_left]
    exact List.prefix_append _ _
  refine ⟨before.length, by omega, ?_, hpart⟩
  exact List.prefix_or_prefix_of_prefix ((List.prefix_append mark t).trans hpart)
    (List.prefix_append _ _)

end Places

/-- An id can only begin where the id of the name does: there is no other place that leaves enough room
and has the beginning of ids. -/
theorem eq_of_agrees : ∀ around ∈ surroundings,
    ∀ k < (around.1 ++ idStart).length + around.2.length - 6,
      Agrees idStart ((around.1 ++ idStart).drop k) → (around.1 ++ idStart).drop k = idStart := by
  decide +kernel

theorem not_agrees : ∀ around ∈ surroundings,
    ∀ k < (around.1 ++ idStart).length + around.2.length - 5,
      ¬ Agrees Session.routineStart ((around.1 ++ idStart).drop k) := by
  decide +kernel

theorem length_surroundings : ∀ around ∈ surroundings, around.2.length ≤ 2 := by
  decide +kernel

variable {c : Component} {name pattern t u : Text} {around : Text × Text}

theorem eq_of_idStart_infix (haround : around ∈ surroundings) (hlength : t.length = u.length)
    (h : idStart ++ t <:+: around.1 ++ idStart ++ (u ++ around.2)) : t = u := by
  have hstart : idStart.length = 7 := by decide
  have hback := length_surroundings around haround
  obtain ⟨k, hk, hagrees, hpart⟩ := exists_place_of_infix hlength (by omega) h
  rw [eq_of_agrees around haround k (by omega) hagrees, List.prefix_append_right_inj] at hpart
  have hprefix : t <+: u :=
    List.prefix_of_prefix_length_le hpart (List.prefix_append _ _) hlength.le
  exact hprefix.eq_of_length hlength

theorem not_routineStart_infix (haround : around ∈ surroundings) (hlength : t.length = u.length) :
    ¬ Session.routineStart ++ t <:+: around.1 ++ idStart ++ (u ++ around.2) := by
  intro h
  have hstart : Session.routineStart.length = 6 := by decide
  have hback := length_surroundings around haround
  obtain ⟨k, hk, hagrees, _⟩ := exists_place_of_infix hlength (by omega) h
  exact not_agrees around haround k (by omega) hagrees

/-! ### Names -/

theorem infix_placeholderOf_iff {id : Text} (hhash : '#' ∉ pattern) (hlong : 2 < pattern.length) :
    pattern <:+: placeholderOf id ↔ pattern <:+: placeholderFront ++ (id ++ "__".toList) := by
  have hsplit : placeholderOf id = placeholderFront ++ (id ++ "__".toList) ++ '#' :: "__".toList := by
    rw [placeholderOf_eq, List.append_assoc, List.append_assoc]
    rfl
  have hend : ¬ pattern <:+: "__".toList := fun h => absurd h.length_le (by simpa using hlong)
  rw [hsplit, Text.infix_append_cons_iff hhash]
  exact or_iff_left hend

theorem exists_surrounding (hid : c.id = idStart ++ u) (hplaceholder : c.placeholder = placeholderOf c.id)
    (hhash : '#' ∉ pattern) (hlong : 2 < pattern.length) (hname : name ∈ c.names)
    (h : pattern <:+: name) :
    ∃ around ∈ surroundings, pattern <:+: around.1 ++ idStart ++ (u ++ around.2) := by
  have hnames : name = c.id ∨ name = c.guardName ∨ name = c.placeholder := by
    simpa [names] using hname
  rcases hnames with rfl | rfl | rfl
  · have heq : c.id = [] ++ idStart ++ (u ++ []) := by simpa using hid
    exact ⟨([], []), by decide, heq ▸ h⟩
  · have heq : c.guardName = "_$".toList ++ idStart ++ (u ++ []) := by
      rw [guardName, hid, List.append_nil]
      rfl
    exact ⟨("_$".toList, []), by decide, heq ▸ h⟩
  · have heq : placeholderFront ++ (c.id ++ "__".toList)
        = placeholderFront ++ idStart ++ (u ++ "__".toList) := by
      rw [hid, List.append_assoc, List.append_assoc]
    rw [hplaceholder, infix_placeholderOf_iff hhash hlong, heq] at h
    exact ⟨(placeholderFront, "__".toList), by decide, h⟩

end Component

namespace Session

variable {s : Session} {a b c : Component} {name : Text}

theorem Reachable.registry (h : s.Reachable) : s.Registry := by
  obtain ⟨draw, settings, commands, started, hstart, rfl⟩ := h
  exact (Registry.start hstart).1.run commands

theorem hash_notMem_append {mark t : Text} {length : Nat} (hmark : '#' ∉ mark)
    (ht : Draw.Yields length t) : '#' ∉ mark ++ t := by
  have hletters : '#' ∉ Draw.letters := by decide +kernel
  rw [List.mem_append]
  rintro (h | h)
  · exact hmark h
  · exact hletters (ht.2 _ h)

namespace Registry

theorem eq_of_id_infix (h : s.Registry) (ha : a ∈ s.components) (hc : c ∈ s.components)
    (hname : name ∈ c.names) (hpart : a.id <:+: name) : a = c := by
  obtain ⟨t, ht, hida⟩ := h.issued.drawn a ha
  obtain ⟨u, hu, hidc⟩ := h.issued.drawn c hc
  have hhash : '#' ∉ Component.idStart ++ t := hash_notMem_append (by decide) ht
  have hlong : 2 < (Component.idStart ++ t).length := by
    have hstart : Component.idStart.length = 7 := by decide
    rw [List.length_append]
    omega
  rw [hida] at hpart
  obtain ⟨around, haround, hplace⟩ :=
    Component.exists_surrounding hidc (h.placeholders c hc) hhash hlong hname hpart
  have hdrawn := Component.eq_of_idStart_infix haround (ht.1.trans hu.1.symm) hplace
  exact h.issued.eq_of_id_eq ha hc (by rw [hida, hidc, hdrawn])

theorem not_routine_infix (h : s.Registry) (hc : c ∈ s.components) (hname : name ∈ c.names) :
    ¬ s.routine <:+: name := by
  intro hpart
  obtain ⟨t, ht, hroutine, _⟩ := h.routine
  obtain ⟨u, hu, hid⟩ := h.issued.drawn c hc
  have hhash : '#' ∉ routineStart ++ t := hash_notMem_append (by decide) (h.drawn t ht)
  have hlong : 2 < (routineStart ++ t).length := by
    have hstart : routineStart.length = 6 := by decide
    rw [List.length_append]
    omega
  rw [hroutine] at hpart
  obtain ⟨around, haround, hplace⟩ :=
    Component.exists_surrounding hid (h.placeholders c hc) hhash hlong hname hpart
  have hlength := (h.drawn t ht).1.trans hu.1.symm
  exact Component.not_routineStart_infix haround hlength hplace

end Registry

/-- The names of a component hold neither the id nor the placeholder of another one, nor the name of
the routine. -/
theorem names_apart (h : s.Reachable) :
    (∀ (i j : Nat) (a b : Component), i ≠ j →
      s.components[i]? = some a → s.components[j]? = some b →
      ¬ a.placeholder <:+: b.placeholder ∧ ∀ name ∈ b.names, ¬ a.id <:+: name) ∧
    ∀ c ∈ s.components, ∀ name ∈ c.names, ¬ s.routine <:+: name := by
  have hregistry := h.registry
  constructor
  · intro i j a b hij hi hj
    have ha := List.mem_of_getElem? hi
    have hb := List.mem_of_getElem? hj
    have hne : a ≠ b := by
      rintro rfl
      have hnodup : s.components.Nodup := hregistry.distinct.of_map _
      have hlt := (List.getElem?_eq_some_iff.mp hi).1
      exact hij ((List.getElem?_inj hlt hnodup).mp (hi.trans hj.symm))
    refine ⟨fun hpart => hne ?_, fun name hname hpart => hne ?_⟩
    · exact hregistry.issued.eq_of_placeholder_infix hb ha hpart
    · exact hregistry.eq_of_id_infix ha hb hname hpart
  · intro c hc name hname
    exact hregistry.not_routine_infix hc hname

theorem names_apart_misleading :
    let letters (t : String) : Draw := fun _ place =>
      Fin.ofNat 36 (Draw.letters.idxOf (t.toList.getD place 'a'))
    let settings : Settings := { placeholderLength := 4 }
    let commands : List Command :=
      [.getOrCreate (letters "vpis") "/A.vue".toList, .getOrCreate (letters "inje") "/B.vue".toList]
    let started : Session :=
      { settings, components := [], index := [], issued := ["vpsi".toList]
        routine := "_vpis_vpsi".toList }
    let s := started.run commands
    s.Reachable ∧ s.components.map (·.id) = ["__vpsi_vpis".toList, "__vpsi_inje".toList] ∧
      (∀ (i j : Nat) (a b : Component), i ≠ j →
        s.components[i]? = some a → s.components[j]? = some b →
        ¬ a.placeholder <:+: b.placeholder ∧ ∀ name ∈ b.names, ¬ a.id <:+: name) ∧
      ∀ c ∈ s.components, ∀ name ∈ c.names, ¬ s.routine <:+: name := by
  intro letters settings commands started s
  have hreachable : s.Reachable := ⟨letters "vpsi", settings, commands, started, rfl, rfl⟩
  exact ⟨hreachable, by decide +kernel, names_apart hreachable⟩

end Session

end ComponentStyles
