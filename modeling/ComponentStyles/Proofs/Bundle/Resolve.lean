import ComponentStyles.Bundle
import ComponentStyles.Proofs.Component.Placeholder

/-!
# Resolving is one simultaneous substitution

Placeholders are replaced component by component, each time in a text that earlier replacements have
already changed. `resolve_weave`: if the placeholders stand between quotes and neither the text
around them nor any styles hold the mark of a placeholder, the order of the components does not
matter, and the outcome is the text with all placeholders replaced at once.

Proof. No placeholder holds a quote, so a quote separates a text: resolving goes on independently on
its two sides (`resolve_append_cons`). Between two quotes stands either a text without the mark,
which stays as it is through all replacements (`resolve_of_markless`), or a placeholder alone. That
one is left alone until the turn of its own component, since no placeholder is a part of another,
and turns into a text without the mark then (`resolve_placeholder`).
-/

namespace ComponentStyles.Bundle

open Component (Issued placeholderMark placeholderLetters)

variable {length : Nat} {cs : List Component}

/-! ### Component by component -/

theorem foldl_resolve (cs : List Component) (found : Bool) (code : Text) :
    cs.foldl
        (fun (found, code) c =>
          if Text.hasPart c.placeholder code then
            (true, Text.replaceAll c.placeholder c.styles code)
          else (found, code))
        (found, code)
      = (found || (resolve cs code).1, (resolve cs code).2) := by
  induction cs generalizing found code with
  | nil => simp [resolve]
  | cons c cs ih =>
    rw [resolve, List.foldl_cons, List.foldl_cons]
    by_cases h : Text.hasPart c.placeholder code = true
    · simp only [h, if_true]
      rw [ih]
      simp
    · simp only [h, if_false, Bool.false_eq_true]
      rw [ih, ih]
      simp

theorem resolve_cons {c : Component} (hne : c.placeholder ≠ []) (cs : List Component)
    (code : Text) :
    resolve (c :: cs) code
      = (Text.hasPart c.placeholder code ||
            (resolve cs (Text.replaceAll c.placeholder c.styles code)).1,
          (resolve cs (Text.replaceAll c.placeholder c.styles code)).2) := by
  rw [resolve, List.foldl_cons]
  dsimp only
  by_cases h : Text.hasPart c.placeholder code = true
  · rw [if_pos h, foldl_resolve, h]
  · rw [if_neg h, foldl_resolve,
      Text.replaceAll_of_not_infix hne (mt Text.hasPart_iff.mpr h)]
    simp [h]

theorem resolve_of_markless (hcs : Issued length cs) {t : Text} (ht : ¬ placeholderMark <:+: t) :
    resolve cs t = (false, t) := by
  induction cs with
  | nil => rfl
  | cons c cs ih =>
    have hne := hcs.placeholder_ne_nil List.mem_cons_self
    have hpart := hcs.not_placeholder_infix List.mem_cons_self ht
    rw [resolve_cons hne, Text.replaceAll_of_not_infix hne hpart, ih hcs.tail]
    simpa using mt Text.hasPart_iff.mp hpart

theorem resolve_placeholder (hcs : Issued length cs)
    (hstyles : ∀ c ∈ cs, ¬ placeholderMark <:+: c.styles) {c : Component} (hc : c ∈ cs) :
    resolve cs c.placeholder = (true, c.styles) := by
  induction cs with
  | nil => exact absurd hc List.not_mem_nil
  | cons d cs ih =>
    have hne := hcs.placeholder_ne_nil List.mem_cons_self
    rw [resolve_cons hne]
    by_cases hcd : d = c
    · subst hcd
      rw [Text.replaceAll_self hne,
        resolve_of_markless hcs.tail (hstyles d List.mem_cons_self),
        Text.hasPart_iff.mpr (List.infix_refl _)]
      rfl
    · have hpart : ¬ d.placeholder <:+: c.placeholder :=
        fun h => hcd (hcs.eq_of_placeholder_infix hc List.mem_cons_self h)
      have hc' : c ∈ cs := (List.mem_cons.mp hc).resolve_left (Ne.symm hcd)
      rw [Text.replaceAll_of_not_infix hne hpart,
        ih hcs.tail (fun e he => hstyles e (List.mem_cons_of_mem d he)) hc']
      simp

/-! ### Separators -/

theorem resolve_append_cons (hcs : Issued length cs) {q : Char} (hq : q ∉ placeholderLetters)
    (u v : Text) :
    resolve cs (u ++ q :: v)
      = ((resolve cs u).1 || (resolve cs v).1, (resolve cs u).2 ++ q :: (resolve cs v).2) := by
  induction cs generalizing u v with
  | nil => rfl
  | cons c cs ih =>
    have hne := hcs.placeholder_ne_nil List.mem_cons_self
    have hqc := hcs.not_mem_placeholder List.mem_cons_self hq
    have hpart : Text.hasPart c.placeholder (u ++ q :: v)
        = (Text.hasPart c.placeholder u || Text.hasPart c.placeholder v) := by
      rw [Bool.eq_iff_iff, Bool.or_eq_true, Text.hasPart_iff, Text.hasPart_iff, Text.hasPart_iff]
      exact Text.infix_append_cons_iff hqc
    rw [resolve_cons hne, resolve_cons hne, resolve_cons hne, hpart,
      Text.replaceAll_append_cons hqc hne, ih hcs.tail]
    simp only [Prod.mk.injEq, and_true]
    ac_rfl

theorem resolve_append_of_head (hcs : Issued length cs) {q : Char} (hq : q ∉ placeholderLetters)
    (u v : Text) :
    resolve cs (u ++ q :: v)
      = ((resolve cs u).1 || (resolve cs (q :: v)).1,
          (resolve cs u).2 ++ (resolve cs (q :: v)).2) := by
  have hnil := resolve_of_markless hcs (by decide : ¬ placeholderMark <:+: [])
  have hv := resolve_append_cons hcs hq [] v
  rw [hnil, List.nil_append, List.nil_append, Bool.false_or] at hv
  rw [resolve_append_cons hcs hq, hv]

theorem resolve_append_of_last (hcs : Issued length cs) {q : Char} (hq : q ∉ placeholderLetters)
    (u v : Text) :
    resolve cs (u ++ [q] ++ v)
      = ((resolve cs (u ++ [q])).1 || (resolve cs v).1,
          (resolve cs (u ++ [q])).2 ++ (resolve cs v).2) := by
  have hnil := resolve_of_markless hcs (by decide : ¬ placeholderMark <:+: [])
  have hu := resolve_append_cons hcs hq u []
  rw [hnil, Bool.or_false] at hu
  rw [List.append_assoc, List.singleton_append, resolve_append_cons hcs hq, hu, List.append_assoc,
    List.singleton_append]

/-! ### Texts with placeholders between quotes -/

def IsQuote (ch : Char) : Prop := ch = '"' ∨ ch = '\x27' ∨ ch = '\x60'

theorem IsQuote.not_mem_placeholderLetters {q : Char} (h : IsQuote q) :
    q ∉ placeholderLetters := by
  rcases h with rfl | rfl | rfl <;> decide +kernel

theorem IsQuote.not_mem_placeholderMark {q : Char} (h : IsQuote q) : q ∉ placeholderMark := by
  rcases h with rfl | rfl | rfl <;> decide

/-- A text, and for each slot behind it what fills the slot of a component, and the text behind the
slot. -/
def weave (fill : Component → Text) (first : Text) : List (Component × Text) → Text
  | [] => first
  | (c, t) :: slots => first ++ fill c ++ weave fill t slots

/-- The characters directly before and after each slot are quotes. -/
def Quoted (first : Text) : List (Component × Text) → Prop
  | [] => True
  | (_, t) :: slots =>
    (∃ q, IsQuote q ∧ first.getLast? = some q) ∧ (∃ q, IsQuote q ∧ t.head? = some q) ∧
      Quoted t slots

theorem weave_cons (fill : Component → Text) (q : Char) (t : Text)
    (slots : List (Component × Text)) : weave fill (q :: t) slots = q :: weave fill t slots := by
  cases slots with
  | nil => rfl
  | cons s slots => simp [weave]

/-- A placeholder and what stands on its two sides are resolved independently. -/
theorem resolve_slot (hcs : Issued length cs)
    (hstyles : ∀ c ∈ cs, ¬ placeholderMark <:+: c.styles) {c : Component} (hc : c ∈ cs)
    {u v : Text} (hu : ∃ q, q ∉ placeholderLetters ∧ u.getLast? = some q)
    (hv : ∃ q, q ∉ placeholderLetters ∧ v.head? = some q) :
    resolve cs (u ++ c.placeholder ++ v)
      = (true, (resolve cs u).2 ++ c.styles ++ (resolve cs v).2) := by
  obtain ⟨q, hq, hlast⟩ := hu
  obtain ⟨q', hq', hhead⟩ := hv
  obtain ⟨u, rfl⟩ := List.getLast?_eq_some_iff.mp hlast
  obtain ⟨v, rfl⟩ := List.head?_eq_some_iff.mp hhead
  rw [List.append_assoc, resolve_append_of_last hcs hq, resolve_append_of_head hcs hq',
    resolve_placeholder hcs hstyles hc]
  simp

theorem resolve_weave_placeholder (hcs : Issued length cs)
    (hstyles : ∀ c ∈ cs, ¬ placeholderMark <:+: c.styles) (first : Text)
    (slots : List (Component × Text)) (hslots : ∀ s ∈ slots, s.1 ∈ cs)
    (hfirst : ¬ placeholderMark <:+: first) (hrest : ∀ s ∈ slots, ¬ placeholderMark <:+: s.2)
    (hquoted : Quoted first slots) :
    resolve cs (weave Component.placeholder first slots)
      = (!slots.isEmpty, weave Component.styles first slots) := by
  induction slots generalizing first with
  | nil => exact resolve_of_markless hcs hfirst
  | cons s slots ih =>
    obtain ⟨c, t⟩ := s
    obtain ⟨⟨q, hq, hlast⟩, ⟨q', hq', hhead⟩, hquoted⟩ := hquoted
    obtain ⟨t, rfl⟩ := List.head?_eq_some_iff.mp hhead
    have hbehind := ih (q' :: t) (fun s hs => hslots s (List.mem_cons_of_mem _ hs))
      (hrest _ List.mem_cons_self) (fun s hs => hrest s (List.mem_cons_of_mem _ hs)) hquoted
    rw [weave, weave, resolve_slot hcs hstyles (hslots _ List.mem_cons_self)
      ⟨q, hq.not_mem_placeholderLetters, hlast⟩
      ⟨q', hq'.not_mem_placeholderLetters, by rw [weave_cons, List.head?_cons]⟩,
      resolve_of_markless hcs hfirst, hbehind]
    rfl

theorem markless_weave {fill : Component → Text} (first : Text) (slots : List (Component × Text))
    (hfill : ∀ s ∈ slots, ¬ placeholderMark <:+: fill s.1)
    (hfirst : ¬ placeholderMark <:+: first) (hrest : ∀ s ∈ slots, ¬ placeholderMark <:+: s.2)
    (hquoted : Quoted first slots) : ¬ placeholderMark <:+: weave fill first slots := by
  induction slots generalizing first with
  | nil => exact hfirst
  | cons s slots ih =>
    obtain ⟨c, t⟩ := s
    obtain ⟨⟨q, hq, hlast⟩, ⟨q', hq', hhead⟩, hquoted⟩ := hquoted
    obtain ⟨u, rfl⟩ := List.getLast?_eq_some_iff.mp hlast
    obtain ⟨t, rfl⟩ := List.head?_eq_some_iff.mp hhead
    have hbehind := ih (q' :: t) (fun s hs => hfill s (List.mem_cons_of_mem _ hs))
      (hrest _ List.mem_cons_self) (fun s hs => hrest s (List.mem_cons_of_mem _ hs)) hquoted
    rw [weave_cons] at hbehind
    rw [weave, weave_cons, List.append_assoc, List.append_assoc, List.singleton_append,
      Text.infix_append_cons_iff hq.not_mem_placeholderMark,
      Text.infix_append_cons_iff hq'.not_mem_placeholderMark]
    rintro (h | h | h)
    · exact hfirst (h.trans (List.prefix_append u [q]).isInfix)
    · exact hfill _ List.mem_cons_self h
    · exact hbehind (List.infix_cons h)

/-- All placeholders between quotes are replaced by the styles of their components, each occurrence
by those of its own component and nothing else is touched, whatever the order of the components. No
placeholder is left, so that resolving again, in any order, changes nothing. -/
theorem resolve_weave {order : List Component} (hcs : Issued length cs) (horder : order.Perm cs)
    (hstyles : ∀ c ∈ cs, ¬ placeholderMark <:+: c.styles) (first : Text)
    (slots : List (Component × Text)) (hslots : ∀ s ∈ slots, s.1 ∈ cs)
    (hfirst : ¬ placeholderMark <:+: first) (hrest : ∀ s ∈ slots, ¬ placeholderMark <:+: s.2)
    (hquoted : Quoted first slots) :
    resolve order (weave Component.placeholder first slots)
        = (!slots.isEmpty, weave Component.styles first slots) ∧
      (∀ c ∈ cs, ¬ c.placeholder <:+: weave Component.styles first slots) ∧
      ∀ order' : List Component, order'.Perm cs →
        resolve order' (weave Component.styles first slots)
          = (false, weave Component.styles first slots) := by
  have hmarkless : ¬ placeholderMark <:+: weave Component.styles first slots :=
    markless_weave first slots (fun s hs => hstyles s.1 (hslots s hs)) hfirst hrest hquoted
  refine ⟨?_, fun c hc => hcs.not_placeholder_infix hc hmarkless, fun order' horder' => ?_⟩
  · exact resolve_weave_placeholder (hcs.perm horder)
      (fun c hc => hstyles c (horder.mem_iff.mp hc)) first slots
      (fun s hs => horder.mem_iff.mpr (hslots s hs)) hfirst hrest hquoted
  · exact resolve_of_markless (hcs.perm horder') hmarkless

theorem resolve_weave_twice :
    let a := { Component.fresh "__vpsi_ab".toList "/A.vue".toList with
      css := [("/A.vue".toList, ".a{}".toList), ("/A.vue?index=1".toList, ".b{}".toList)] }
    let b := Component.fresh "__vpsi_cd".toList "/B.vue".toList
    resolve [b, a]
        (weave Component.placeholder "f(\"".toList
          [(a, "\",\"".toList), (b, "\"".toList), (a, "\");".toList)])
      = (true, "f(\".a{} .b{}\",\"\".a{} .b{}\");".toList) := by
  intro a b
  have hab : "ab".toList ⊆ Draw.letters := by decide +kernel
  have hcd : "cd".toList ⊆ Draw.letters := by decide +kernel
  have hcs : Issued 2 [a, b] :=
    ⟨List.forall_mem_cons.mpr
        ⟨⟨"ab".toList, ⟨by decide, fun _ hch => hab hch⟩, by decide +kernel⟩,
          List.forall_mem_singleton.mpr
            ⟨"cd".toList, ⟨by decide, fun _ hch => hcd hch⟩, by decide +kernel⟩⟩,
      by decide +kernel, by decide +kernel⟩
  have hquote : ∃ q, IsQuote q ∧ some '"' = some q := ⟨'"', Or.inl rfl, rfl⟩
  have h := resolve_weave hcs (List.Perm.swap a b []) (by decide +kernel) "f(\"".toList
    [(a, "\",\"".toList), (b, "\"".toList), (a, "\");".toList)] (by decide +kernel)
    (by decide +kernel) (by decide +kernel)
    ⟨hquote, hquote, hquote, hquote, hquote, hquote, trivial⟩
  exact h.1.trans (by decide +kernel)

end ComponentStyles.Bundle
