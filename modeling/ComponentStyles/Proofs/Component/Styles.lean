import ComponentStyles.Component
import Mathlib.Data.List.Nodup

/-!
# The texts of a component's style blocks

The texts of style blocks are put under their keys one after the other. What this leaves behind is
an ordered map (`StoredBy`): the keys stand in the order of their first texts, no key stands there
twice, and each has its last text. One more text keeps it so (`StoredBy.putText`), since a text put
under a known key takes the place of the one that is there, and a new key goes to the end.
-/

namespace ComponentStyles.Component

variable {key text : Text} {entries : List (Text × Text)}

/-! ### One text -/

theorem map_fst_putText (key text : Text) (entries : List (Text × Text)) :
    (putText key text entries).map (·.1)
      = if key ∈ entries.map (·.1) then entries.map (·.1) else entries.map (·.1) ++ [key] := by
  induction entries with
  | nil => rfl
  | cons entry entries ih =>
    obtain ⟨k, t⟩ := entry
    rw [putText]
    by_cases hk : k = key
    · simp [hk]
    · have hkey : key ∈ ((k, t) :: entries).map (·.1) ↔ key ∈ entries.map (·.1) := by
        simp [Ne.symm hk]
      rw [if_neg hk, List.map_cons, ih]
      by_cases hmem : key ∈ entries.map (·.1)
      · rw [if_pos hmem, if_pos (hkey.mpr hmem), List.map_cons]
      · rw [if_neg hmem, if_neg (mt hkey.mp hmem), List.map_cons, List.cons_append]

theorem nodup_putText (h : (entries.map (·.1)).Nodup) :
    ((putText key text entries).map (·.1)).Nodup := by
  rw [map_fst_putText]
  split
  · exact h
  · rename_i hkey
    rw [List.nodup_append]
    refine ⟨h, List.nodup_singleton key, fun k hk k' hk' heq => hkey ?_⟩
    rw [List.mem_singleton] at hk'
    rwa [← hk', ← heq]

theorem mem_putText (h : (entries.map (·.1)).Nodup) {entry : Text × Text}
    (hentry : entry ∈ putText key text entries) :
    entry = (key, text) ∨ entry ∈ entries ∧ entry.1 ≠ key := by
  induction entries with
  | nil => exact Or.inl (List.mem_singleton.mp hentry)
  | cons first entries ih =>
    obtain ⟨k, t⟩ := first
    rw [List.map_cons, List.nodup_cons] at h
    rw [putText] at hentry
    by_cases hk : k = key
    · rw [if_pos hk, List.mem_cons] at hentry
      rcases hentry with rfl | hentry
      · exact Or.inl (by rw [hk])
      · have hne : entry.1 ≠ k := fun heq => h.1 (List.mem_map.mpr ⟨entry, hentry, heq⟩)
        exact Or.inr ⟨List.mem_cons_of_mem _ hentry, hk ▸ hne⟩
    · rw [if_neg hk, List.mem_cons] at hentry
      rcases hentry with rfl | hentry
      · exact Or.inr ⟨List.mem_cons_self, hk⟩
      · rcases ih h.2 hentry with heq | ⟨hmem, hne⟩
        · exact Or.inl heq
        · exact Or.inr ⟨List.mem_cons_of_mem _ hmem, hne⟩

/-! ### Texts one after the other -/

theorem eraseDups_concat {β : Type} [BEq β] [LawfulBEq β] (members : List β) (b : β) :
    (members ++ [b]).eraseDups
      = if b ∈ members then members.eraseDups else members.eraseDups ++ [b] := by
  rw [List.eraseDups_append, List.cons_removeAll, List.nil_removeAll]
  by_cases h : b ∈ members
  · rw [if_pos h, if_neg (by simpa using h), List.eraseDups_nil, List.append_nil]
  · rw [if_neg h, if_pos (by simpa using h)]
    rfl

/-- What texts put under their keys one after the other leave behind. -/
structure StoredBy (writes entries : List (Text × Text)) : Prop where
  /-- The keys stand in the order in which they came first. -/
  keys : entries.map (·.1) = (writes.map (·.1)).eraseDups
  distinct : (entries.map (·.1)).Nodup
  /-- The text of a key is its last one. -/
  last : ∀ key text, (key, text) ∈ entries →
    (writes.filter fun w => w.1 = key).getLast? = some (key, text)

theorem StoredBy.nil : StoredBy [] [] :=
  ⟨rfl, List.nodup_nil, fun _ _ h => absurd h List.not_mem_nil⟩

theorem StoredBy.putText {writes : List (Text × Text)} (h : StoredBy writes entries)
    (key text : Text) : StoredBy (writes ++ [(key, text)]) (putText key text entries) where
  keys := by
    have hmem : key ∈ entries.map (·.1) ↔ key ∈ writes.map (·.1) := by
      rw [h.keys, List.mem_eraseDups]
    rw [map_fst_putText, List.map_append, List.map_singleton, eraseDups_concat, ← h.keys]
    exact if_congr hmem rfl rfl
  distinct := nodup_putText h.distinct
  last k t hentry := by
    rw [List.filter_append]
    rcases mem_putText h.distinct hentry with heq | ⟨hmem, hne⟩
    · obtain ⟨rfl, rfl⟩ := Prod.mk.inj heq
      simp
    · have hother : [(key, text)].filter (fun w => w.1 = k) = [] := by
        simp [Ne.symm hne]
      rw [hother, List.append_nil]
      exact h.last k t hmem

end ComponentStyles.Component
