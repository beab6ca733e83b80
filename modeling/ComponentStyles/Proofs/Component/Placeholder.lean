import ComponentStyles.Proofs.Text.Occurrence
import ComponentStyles.Session
import Mathlib.Data.List.Nodup

/-!
# Placeholders of issued components

The components of one session have ids that were drawn with one length and are pairwise distinct
(`Issued`). Their placeholders are then distinct texts of one length, so none is a part of another
(`Issued.eq_of_placeholder_infix`). They hold a mark (`placeholderMark`) and few kinds of characters
(`Issued.not_mem_placeholder`), neither of which depends on the draws.
-/

namespace ComponentStyles

/-- A text that a draw of some length can yield. -/
def Draw.Yields (length : Nat) (t : Text) : Prop :=
  t.length = length ∧ ∀ ch ∈ t, ch ∈ letters

namespace Component

/-- Components with ids drawn in one session. -/
structure Issued (length : Nat) (cs : List Component) : Prop where
  drawn : ∀ c ∈ cs, ∃ t, Draw.Yields length t ∧ c.id = idStart ++ t
  placeholder : ∀ c ∈ cs, c.placeholder = placeholderOf c.id
  distinct : (cs.map (·.id)).Nodup

def placeholderFront : Text := "__#__vite-plugin-styles-inject_".toList

def placeholderBack : Text := "__#__".toList

theorem placeholderOf_eq (id : Text) :
    placeholderOf id = placeholderFront ++ (id ++ placeholderBack) :=
  List.append_assoc placeholderFront id placeholderBack

/-- What stands in every placeholder, and hardly anywhere else. -/
def placeholderMark : Text := "_#_".toList

def placeholderLetters : Text := Draw.letters ++ ['_', '#', '-']

namespace Issued

variable {length : Nat} {cs : List Component} {c d : Component}

theorem perm {cs' : List Component} (h : Issued length cs) (hperm : cs'.Perm cs) :
    Issued length cs' where
  drawn c hc := h.drawn c (hperm.mem_iff.mp hc)
  placeholder c hc := h.placeholder c (hperm.mem_iff.mp hc)
  distinct := (hperm.map _).nodup_iff.mpr h.distinct

theorem tail (h : Issued length (c :: cs)) : Issued length cs where
  drawn d hd := h.drawn d (List.mem_cons_of_mem c hd)
  placeholder d hd := h.placeholder d (List.mem_cons_of_mem c hd)
  distinct := (List.nodup_cons.mp h.distinct).2

theorem eq_of_id_eq (h : Issued length cs) (hc : c ∈ cs) (hd : d ∈ cs) (hid : c.id = d.id) :
    c = d :=
  List.inj_on_of_nodup_map h.distinct hc hd hid

theorem mem_letters_of_mem_id (h : Issued length cs) (hc : c ∈ cs) {ch : Char}
    (hch : ch ∈ c.id) : ch ∈ Draw.letters ∨ ch = '_' := by
  obtain ⟨t, ⟨_, ht⟩, hid⟩ := h.drawn c hc
  have hstart : idStart ⊆ Draw.letters ++ ['_'] := by decide +kernel
  rw [hid, List.mem_append] at hch
  rcases hch with hch | hch
  · simpa using hstart hch
  · exact Or.inl (ht ch hch)

theorem mem_placeholderLetters (h : Issued length cs) (hc : c ∈ cs) {ch : Char}
    (hch : ch ∈ c.placeholder) : ch ∈ placeholderLetters := by
  have hfront : placeholderFront ⊆ placeholderLetters := by decide +kernel
  have hback : placeholderBack ⊆ placeholderLetters := by decide +kernel
  rw [h.placeholder c hc, placeholderOf_eq, List.mem_append, List.mem_append] at hch
  rcases hch with hch | hch | hch
  · exact hfront hch
  · rcases h.mem_letters_of_mem_id hc hch with hch | rfl
    · exact List.mem_append_left _ hch
    · exact List.mem_append_right _ (by simp)
  · exact hback hch

theorem not_mem_placeholder (h : Issued length cs) (hc : c ∈ cs) {q : Char}
    (hq : q ∉ placeholderLetters) : q ∉ c.placeholder :=
  fun hch => hq (h.mem_placeholderLetters hc hch)

theorem length_placeholder (h : Issued length cs) (hc : c ∈ cs) :
    c.placeholder.length = 43 + length := by
  obtain ⟨t, ⟨ht, _⟩, hid⟩ := h.drawn c hc
  have hfront : placeholderFront.length = 31 := by decide
  have hstart : idStart.length = 7 := by decide
  have hback : placeholderBack.length = 5 := by decide
  rw [h.placeholder c hc, hid, placeholderOf_eq]
  simp only [List.length_append]
  omega

theorem placeholder_ne_nil (h : Issued length cs) (hc : c ∈ cs) : c.placeholder ≠ [] := by
  intro hnil
  have := h.length_placeholder hc
  rw [hnil, List.length_nil] at this
  omega

theorem placeholderMark_infix (h : Issued length cs) (hc : c ∈ cs) :
    placeholderMark <:+: c.placeholder := by
  have hfront : placeholderMark <:+: placeholderFront := by decide +kernel
  rw [h.placeholder c hc, placeholderOf_eq]
  exact hfront.trans (List.prefix_append ..).isInfix

theorem eq_of_placeholder_eq (h : Issued length cs) (hc : c ∈ cs) (hd : d ∈ cs)
    (heq : c.placeholder = d.placeholder) : c = d := by
  refine h.eq_of_id_eq hc hd ?_
  rw [h.placeholder c hc, h.placeholder d hd, placeholderOf_eq, placeholderOf_eq] at heq
  exact List.append_cancel_right (List.append_cancel_left heq)

/-- No placeholder is a part of another one. -/
theorem eq_of_placeholder_infix (h : Issued length cs) (hc : c ∈ cs) (hd : d ∈ cs)
    (hpart : d.placeholder <:+: c.placeholder) : d = c := by
  refine h.eq_of_placeholder_eq hd hc (hpart.eq_of_length ?_)
  rw [h.length_placeholder hc, h.length_placeholder hd]

theorem not_placeholder_infix (h : Issued length cs) (hc : c ∈ cs) {t : Text}
    (ht : ¬ placeholderMark <:+: t) : ¬ c.placeholder <:+: t :=
  fun hpart => ht ((h.placeholderMark_infix hc).trans hpart)

end Issued

end Component

end ComponentStyles
