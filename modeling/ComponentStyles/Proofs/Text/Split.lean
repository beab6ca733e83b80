import ComponentStyles.Text.Basic
import Mathlib.Data.List.TakeWhile

/-!
# Parts of a text between separators

Splitting at a character and joining with it are those of lists (`splitOnChar_eq_splitOn`,
`join_eq_intercalate`), so texts without the character are got back from what they are joined to.
-/

namespace ComponentStyles.Text

variable {sep : Char} {t u v last first : Text} {ts front rest : List Text}

theorem splitOnChar_eq_splitOn (sep : Char) (t : Text) : splitOnChar sep t = t.splitOn sep := by
  induction t with
  | nil => rfl
  | cons c t ih =>
    rw [splitOnChar, List.splitOn, List.splitOnP_cons_eq_if_modifyHead]
    by_cases hc : c = sep
    · rw [if_pos hc, if_pos (beq_iff_eq.mpr hc), ih, List.splitOn]
    · rw [if_neg hc, if_neg (by simpa using hc), ih, List.splitOn]
      cases hparts : List.splitOnP (fun x => x == sep) t with
      | nil => exact absurd hparts (List.splitOnP_ne_nil _ _)
      | cons part parts => rfl

theorem join_eq_intercalate (sep : Text) (ts : List Text) : join sep ts = sep.intercalate ts := by
  fun_induction join sep ts with
  | case1 => rfl
  | case2 t => exact List.intercalate_singleton.symm
  | case3 t ts hts ih =>
    obtain ⟨t', ts, rfl⟩ := List.exists_cons_of_ne_nil hts
    rw [ih, List.intercalate_cons_cons]

theorem join_cons_cons (sep : Char) (t t' : Text) (ts : List Text) :
    join [sep] (t :: t' :: ts) = t ++ sep :: join [sep] (t' :: ts) :=
  List.append_assoc t [sep] _

theorem join_cons (hne : ts ≠ []) : join [sep] (t :: ts) = t ++ sep :: join [sep] ts := by
  obtain ⟨t', ts, rfl⟩ := List.exists_cons_of_ne_nil hne
  exact join_cons_cons sep t t' ts

theorem splitOnChar_ne_nil (sep : Char) (t : Text) : splitOnChar sep t ≠ [] := by
  rw [splitOnChar_eq_splitOn]
  exact List.splitOnP_ne_nil _ _

theorem splitOnChar_join (hts : ∀ t ∈ ts, sep ∉ t) (hne : ts ≠ []) :
    splitOnChar sep (join [sep] ts) = ts := by
  rw [join_eq_intercalate, splitOnChar_eq_splitOn, List.splitOn_intercalate sep hts hne]

theorem splitOnChar_append_cons (sep : Char) (u v : Text) :
    splitOnChar sep (u ++ sep :: v) = splitOnChar sep u ++ splitOnChar sep v := by
  rw [splitOnChar_eq_splitOn, splitOnChar_eq_splitOn, splitOnChar_eq_splitOn]
  exact List.splitOnP_append_cons u v (beq_self_eq_true sep)

theorem join_splitOnChar (sep : Char) (t : Text) : join [sep] (splitOnChar sep t) = t := by
  rw [join_eq_intercalate, splitOnChar_eq_splitOn, List.intercalate_splitOn]

theorem notMem_of_mem_splitOnChar (h : u ∈ splitOnChar sep t) : sep ∉ u := by
  induction t generalizing u with
  | nil =>
    rw [splitOnChar, List.mem_singleton] at h
    rw [h]
    exact List.not_mem_nil
  | cons c t ih =>
    rw [splitOnChar] at h
    split at h
    · rcases List.mem_cons.mp h with rfl | h
      · exact List.not_mem_nil
      · exact ih h
    · rename_i hc
      obtain ⟨part, parts, hparts⟩ := List.exists_cons_of_ne_nil (splitOnChar_ne_nil sep t)
      rw [hparts] at h ih
      rcases List.mem_cons.mp h with rfl | h
      · rw [List.mem_cons, not_or]
        exact ⟨fun heq => hc heq.symm, ih List.mem_cons_self⟩
      · exact ih (List.mem_cons_of_mem _ h)

/-! ### Texts put behind each other -/

theorem join_append_join (sep : Char) (front : List Text) (last first : Text) (rest : List Text) :
    join [sep] (front ++ [last]) ++ join [sep] (first :: rest)
      = join [sep] (front ++ (last ++ first) :: rest) := by
  induction front with
  | nil =>
    cases rest with
    | nil => rfl
    | cons second rest =>
      rw [List.nil_append, List.nil_append, join_cons_cons, join_cons_cons, join,
        List.append_assoc]
  | cons part front ih =>
    have hleft : join [sep] (part :: (front ++ [last]))
        = part ++ sep :: join [sep] (front ++ [last]) := join_cons (by simp)
    have hright : join [sep] (part :: (front ++ (last ++ first) :: rest))
        = part ++ sep :: join [sep] (front ++ (last ++ first) :: rest) := join_cons (by simp)
    rw [List.cons_append, List.cons_append, hleft, hright, ← ih, List.append_assoc,
      List.cons_append]

theorem splitOnChar_append (hu : splitOnChar sep u = front ++ [last])
    (hv : splitOnChar sep v = first :: rest) :
    splitOnChar sep (u ++ v) = front ++ (last ++ first) :: rest := by
  have hfront : ∀ part ∈ front ++ [last], sep ∉ part := hu ▸ fun _ => notMem_of_mem_splitOnChar
  have hrest : ∀ part ∈ first :: rest, sep ∉ part := hv ▸ fun _ => notMem_of_mem_splitOnChar
  rw [← join_splitOnChar sep u, ← join_splitOnChar sep v, hu, hv, join_append_join]
  refine splitOnChar_join (fun part hpart => ?_) (by simp)
  rcases List.mem_append.mp hpart with hpart | hpart
  · exact hfront part (List.mem_append_left _ hpart)
  rcases List.mem_cons.mp hpart with rfl | hpart
  · rw [List.mem_append, not_or]
    exact ⟨hfront last (by simp), hrest first List.mem_cons_self⟩
  · exact hrest part (List.mem_cons_of_mem _ hpart)

/-! ### The first separator -/

theorem splitFirst?_append_cons (hu : sep ∉ u) (v : Text) :
    splitFirst? sep (u ++ sep :: v) = some (u, v) := by
  induction u with
  | nil => exact if_pos rfl
  | cons c u ih =>
    obtain ⟨hc, hu⟩ := not_or.mp (mt List.mem_cons.mpr hu)
    rw [List.cons_append, splitFirst?, if_neg (Ne.symm hc), ih hu]
    rfl

theorem splitFirst?_of_notMem (ht : sep ∉ t) : splitFirst? sep t = none := by
  induction t with
  | nil => rfl
  | cons c t ih =>
    obtain ⟨hc, ht⟩ := not_or.mp (mt List.mem_cons.mpr ht)
    rw [splitFirst?, if_neg (Ne.symm hc), ih ht]
    rfl

theorem before_append_cons (hu : sep ∉ u) (v : Text) : before sep (u ++ sep :: v) = u := by
  have hkeep : ∀ c ∈ u, decide (c ≠ sep) = true := by
    intro c hc
    exact decide_eq_true fun heq => hu (heq ▸ hc)
  rw [before, List.takeWhile_append_of_pos hkeep, List.takeWhile_cons_of_neg (by simp),
    List.append_nil]

theorem before_of_notMem (ht : sep ∉ t) : before sep t = t := by
  rw [before, List.takeWhile_eq_self_iff]
  intro c hc
  exact decide_eq_true fun heq => ht (heq ▸ hc)

theorem notMem_before (sep : Char) (t : Text) : sep ∉ before sep t := by
  intro h
  simpa using List.mem_takeWhile_imp h

theorem before_cases (sep : Char) (t : Text) :
    sep ∉ t ∧ before sep t = t ∨ ∃ v, t = before sep t ++ sep :: v := by
  by_cases h : sep ∈ t
  · obtain ⟨u, v, rfl, hu⟩ := List.eq_append_cons_of_mem h
    exact Or.inr ⟨v, by rw [before_append_cons hu]⟩
  · exact Or.inl ⟨h, before_of_notMem h⟩

end ComponentStyles.Text
