import ComponentStyles.Proofs.Component.Styles
import ComponentStyles.Shape
import Mathlib.Data.List.Induction

/-!
# Registered detectors

A detector that is registered takes the place of the one with its tag, and the end of the set if there is
none. So whatever is registered, no two members of a set have a tag in common, their tags stand in the
order in which they came first (`Detector.tags_registerAll`), and a tag finds the detector that came last
with it (`Detector.get?_registerAll`). A member is therefore found again by its tag
(`Detector.get?_tag_of_detect`).

Proof. One registration is described by what it does to the tags and to the look-up of each of them
(`Detector.tags_register`, `Detector.get?_register`); both sets are then compared with the list of what
was registered, by induction from its end.
-/

namespace ComponentStyles

namespace Detector

variable {α : Type} [Detector α] {detectors registered : List α} {d : α} {m : Module} {name : String}

/-! ### One registration -/

theorem get?_cons (d : α) (detectors : List α) (name : String) :
    get? name (d :: detectors) = if tag d = name then some d else get? name detectors := by
  rw [get?, List.find?_cons]
  by_cases h : tag d = name
  · simp [h]
  · simp [h, get?]

theorem tags_register (d : α) (detectors : List α) :
    tags (register d detectors)
      = if tag d ∈ tags detectors then tags detectors else tags detectors ++ [tag d] := by
  induction detectors with
  | nil => rfl
  | cons e rest ih =>
    unfold register
    have htags : ∀ (e : α) rest, tags (e :: rest) = tag e :: tags rest := fun _ _ => rfl
    by_cases h : tag e = tag d
    · rw [if_pos h, htags, htags, h, if_pos List.mem_cons_self]
    · rw [if_neg h, htags, htags, ih]
      by_cases hmem : tag d ∈ tags rest
      · rw [if_pos hmem, if_pos (List.mem_cons_of_mem _ hmem)]
      · have hfresh : tag d ∉ tag e :: tags rest :=
          List.not_mem_cons_of_ne_of_not_mem (Ne.symm h) hmem
        rw [if_neg hmem, if_neg hfresh, List.cons_append]

theorem get?_register (d : α) (detectors : List α) (name : String) :
    get? name (register d detectors)
      = if tag d = name then some d else get? name detectors := by
  induction detectors with
  | nil => exact get?_cons d [] name
  | cons e rest ih =>
    unfold register
    by_cases h : tag e = tag d
    · rw [if_pos h, get?_cons, get?_cons, h]
      split
      · rfl
      · rfl
    · rw [if_neg h, get?_cons, get?_cons, ih]
      by_cases he : tag e = name
      · have hd : tag d ≠ name := fun hd => h (he.trans hd.symm)
        rw [if_pos he, if_neg hd, if_pos he]
      · rw [if_neg he, if_neg he]

/-! ### All registrations -/

def registerAll (registered : List α) : List α :=
  registered.foldl (fun set d => register d set) []

theorem registerAll_concat (registered : List α) (d : α) :
    registerAll (registered ++ [d]) = register d (registerAll registered) := by
  rw [registerAll, List.foldl_append]
  rfl

theorem tags_registerAll (registered : List α) :
    tags (registerAll registered) = (tags registered).eraseDups := by
  induction registered using List.reverseRecOn with
  | nil => rfl
  | append_singleton registered d ih =>
    have hconcat : tags (registered ++ [d]) = tags registered ++ [tag d] := by
      rw [tags, List.map_append]
      rfl
    rw [registerAll_concat, tags_register, hconcat, Component.eraseDups_concat, ih]
    exact if_congr List.mem_eraseDups rfl rfl

theorem nodup_tags_registerAll (registered : List α) : (tags (registerAll registered)).Nodup := by
  induction registered using List.reverseRecOn with
  | nil => exact List.nodup_nil
  | append_singleton registered d ih =>
    rw [registerAll_concat, tags_register]
    by_cases h : tag d ∈ tags (registerAll registered)
    · rwa [if_pos h]
    · rw [if_neg h]
      exact List.concat_eq_append ▸ ih.concat h

theorem get?_registerAll (registered : List α) (name : String) :
    get? name (registerAll registered) = (registered.filter fun d => tag d = name).getLast? := by
  induction registered using List.reverseRecOn with
  | nil => rfl
  | append_singleton registered d ih =>
    rw [registerAll_concat, get?_register, ih, List.filter_append]
    by_cases h : tag d = name
    · have hlast : [d].filter (fun d => tag d = name) = [d] := by
        simp [h]
      rw [if_pos h, hlast, List.getLast?_append]
      rfl
    · have hnone : [d].filter (fun d => tag d = name) = [] := by
        simp [h]
      rw [if_neg h, hnone, List.append_nil]

theorem get?_registerAll_eq_none_iff :
    get? name (registerAll registered) = none ↔ name ∉ tags registered := by
  rw [get?_registerAll, List.getLast?_eq_none_iff, List.filter_eq_nil_iff, tags, List.mem_map]
  simp only [decide_eq_true_eq, not_exists, not_and]

/-! ### Detection -/

theorem detect_eq_some_iff :
    detect m detectors = some d ↔
      supports d m = true ∧ ∃ before after, detectors = before ++ d :: after ∧
        ∀ e ∈ before, supports e m = false := by
  rw [detect, List.find?_eq_some_iff_append]
  simp only [Bool.not_eq_true']

theorem get?_tag_of_mem (hnodup : (tags detectors).Nodup) (hd : d ∈ detectors) :
    get? (tag d) detectors = some d := by
  induction detectors with
  | nil => cases hd
  | cons e rest ih =>
    obtain ⟨hfresh, hrest⟩ := List.nodup_cons.mp hnodup
    rw [get?_cons]
    rcases List.mem_cons.mp hd with rfl | hmem
    · rw [if_pos rfl]
    · have hne : tag e ≠ tag d := by
        intro heq
        apply hfresh
        rw [heq]
        exact List.mem_map_of_mem hmem
      rw [if_neg hne]
      exact ih hrest hmem

theorem get?_tag_of_detect (registered : List α)
    (h : detect m (registerAll registered) = some d) :
    get? (tag d) (registerAll registered) = some d :=
  get?_tag_of_mem (nodup_tags_registerAll registered) (List.mem_of_find?_eq_some h)

end Detector

namespace ShapeSet

theorem shapes_foldl_register (registered : List Shape) :
    (registered.foldl (fun set shape => set.register shape) empty).shapes
      = Detector.registerAll registered := by
  induction registered using List.reverseRecOn with
  | nil => rfl
  | append_singleton registered shape ih =>
    rw [List.foldl_append, Detector.registerAll_concat, ← ih]
    rfl

end ShapeSet

end ComponentStyles
