import ComponentStyles.Text.Substring

/-!
# Where a pattern occurs

A search goes from left to right and behind each occurrence it finds. What it finds is an occurrence
(`exists_append_of_mem_occurrences`), and what it finds first is the first one
(`offsetOf?_eq_some_iff`), so that a pattern is a part of a text exactly when the search finds one
(`hasPart_iff`).

A character that is not in the pattern separates a text: no occurrence lies across it
(`infix_append_cons_iff`), and replacing goes on independently on its two sides
(`replaceAll_append_cons`). This is what keeps replacements from meddling with each other.
-/

namespace ComponentStyles.Text

variable {pattern : Text}

/-! ### One step of a search -/

theorem occurrencesFrom_skip (u v : Text) (offset : Nat) :
    occurrencesFrom pattern u.length offset (u ++ v)
      = occurrencesFrom pattern 0 (offset + byteLength u) v := by
  induction u generalizing offset with
  | nil => rfl
  | cons c u ih =>
    rw [List.length_cons, List.cons_append, occurrencesFrom, ih, byteLength_cons, Nat.add_assoc]

theorem replaceFrom_skip (new u v : Text) :
    replaceFrom pattern new u.length (u ++ v) = replaceFrom pattern new 0 v := by
  induction u with
  | nil => rfl
  | cons c u ih => rw [List.length_cons, List.cons_append, replaceFrom, ih]

theorem occurrencesFrom_cons {c : Char} {rest : Text} (h : ¬ pattern <+: c :: rest)
    (offset : Nat) :
    occurrencesFrom pattern 0 offset (c :: rest)
      = occurrencesFrom pattern 0 (offset + c.utf8Size) rest := by
  rw [occurrencesFrom, if_neg (by rwa [List.isPrefixOf_iff_prefix])]

theorem occurrencesFrom_append (hne : pattern ≠ []) (rest : Text) (offset : Nat) :
    occurrencesFrom pattern 0 offset (pattern ++ rest)
      = offset :: occurrencesFrom pattern 0 (offset + byteLength pattern) rest := by
  obtain ⟨c, tail, rfl⟩ := List.exists_cons_of_ne_nil hne
  have hstart : (c :: tail).isPrefixOf (c :: (tail ++ rest)) = true := by
    rw [List.isPrefixOf_iff_prefix, ← List.cons_append]
    exact List.prefix_append ..
  rw [List.cons_append, occurrencesFrom, if_pos hstart]
  show _ :: occurrencesFrom _ tail.length _ _ = _
  rw [occurrencesFrom_skip, byteLength_cons, Nat.add_assoc]

theorem replaceFrom_cons {c : Char} {rest : Text} (h : ¬ pattern <+: c :: rest)
    (new : Text) :
    replaceFrom pattern new 0 (c :: rest) = c :: replaceFrom pattern new 0 rest := by
  rw [replaceFrom, if_neg (by rwa [List.isPrefixOf_iff_prefix])]

theorem replaceFrom_append (hne : pattern ≠ []) (new rest : Text) :
    replaceFrom pattern new 0 (pattern ++ rest) = new ++ replaceFrom pattern new 0 rest := by
  obtain ⟨c, tail, rfl⟩ := List.exists_cons_of_ne_nil hne
  have hstart : (c :: tail).isPrefixOf (c :: (tail ++ rest)) = true := by
    rw [List.isPrefixOf_iff_prefix, ← List.cons_append]
    exact List.prefix_append ..
  rw [List.cons_append, replaceFrom, if_pos hstart, if_neg (List.cons_ne_nil _ _)]
  show new ++ replaceFrom _ new tail.length _ = _
  rw [replaceFrom_skip]

/-- Induction along a search: the text ends, begins with the pattern, or loses a character. -/
theorem search_induction {motive : Text → Prop} (hne : pattern ≠ []) (nil : motive [])
    (found : ∀ rest, motive rest → motive (pattern ++ rest))
    (step : ∀ c rest, ¬ pattern <+: c :: rest → motive rest → motive (c :: rest)) (t : Text) :
    motive t := by
  induction hn : t.length using Nat.strongRecOn generalizing t with
  | ind n ih =>
    cases t with
    | nil => exact nil
    | cons c rest =>
      by_cases hstart : pattern <+: c :: rest
      · obtain ⟨rest', hrest'⟩ := hstart
        have hlt : rest'.length < n := by
          rw [← hn, ← hrest', List.length_append]
          have := List.length_pos_iff.mpr hne
          omega
        rw [← hrest']
        exact found rest' (ih _ hlt rest' rfl)
      · exact step c rest hstart (ih rest.length (by rw [← hn]; simp) rest rfl)

/-! ### What a search finds -/

theorem exists_append_of_mem_occurrencesFrom (hne : pattern ≠ []) {t : Text} {offset n : Nat}
    (h : n ∈ occurrencesFrom pattern 0 offset t) :
    ∃ front rest, t = front ++ (pattern ++ rest) ∧ n = offset + byteLength front := by
  induction t using search_induction hne generalizing offset with
  | nil => simp [occurrencesFrom, hne] at h
  | found rest ih =>
    rw [occurrencesFrom_append hne, List.mem_cons] at h
    rcases h with rfl | h
    · exact ⟨[], rest, rfl, rfl⟩
    · obtain ⟨front, rest', rfl, rfl⟩ := ih h
      exact ⟨pattern ++ front, rest', by simp, by simp [Nat.add_assoc]⟩
  | step c rest hstep ih =>
    rw [occurrencesFrom_cons hstep] at h
    obtain ⟨front, rest', rfl, rfl⟩ := ih h
    exact ⟨c :: front, rest', rfl, by simp [Nat.add_assoc]⟩

theorem exists_append_of_mem_occurrences (hne : pattern ≠ []) {t : Text} {n : Nat}
    (h : n ∈ occurrences pattern t) :
    ∃ front rest, t = front ++ (pattern ++ rest) ∧ n = byteLength front := by
  obtain ⟨front, rest, rfl, rfl⟩ := exists_append_of_mem_occurrencesFrom hne h
  exact ⟨front, rest, rfl, Nat.zero_add _⟩

/-- A search misses an occurrence only if it overlaps with one found before. -/
theorem mem_occurrencesFrom_or_overlap (hne : pattern ≠ []) (front rest : Text) (offset : Nat) :
    offset + byteLength front ∈ occurrencesFrom pattern 0 offset (front ++ (pattern ++ rest)) ∨
      ∃ front' w, front = front' ++ w ∧ w ≠ [] ∧ ∃ tail, tail ≠ [] ∧ pattern = w ++ tail ∧
        tail <+: pattern ++ rest := by
  generalize ht : front ++ (pattern ++ rest) = t
  induction t using search_induction hne generalizing front offset with
  | nil => simp_all
  | found t ih =>
    rcases List.append_eq_append_iff.mp ht with ⟨w, hw, hrest⟩ | ⟨w, rfl, hrest⟩
    · -- what is found here goes beyond `front`, and so into the occurrence asked for
      by_cases hfront : front = []
      · subst hfront
        rw [occurrencesFrom_append hne]
        exact Or.inl (by simp)
      · by_cases hwnil : w = []
        · subst hwnil
          rw [List.append_nil] at hw
          subst hw
          rw [occurrencesFrom_append hne]
          rw [List.nil_append] at hrest
          rcases ih [] (offset + byteLength pattern) hrest with h | ⟨_, w, hnil, hw, _⟩
          · rw [byteLength_nil, Nat.add_zero] at h
            exact Or.inl (List.mem_cons_of_mem _ h)
          · exact absurd (List.append_eq_nil_iff.mp hnil.symm).2 hw
        · exact Or.inr ⟨[], front, rfl, hfront, w, hwnil, hw, t, hrest.symm⟩
    · rcases ih w (offset + byteLength pattern) hrest.symm with h | ⟨front', w', rfl, hw⟩
      · rw [occurrencesFrom_append hne, byteLength_append, ← Nat.add_assoc]
        exact Or.inl (List.mem_cons_of_mem _ h)
      · exact Or.inr ⟨pattern ++ front', w', by simp, hw⟩
  | step c t hstep ih =>
    cases front with
    | nil => exact absurd ⟨rest, ht⟩ hstep
    | cons d front =>
      obtain ⟨hd, htail⟩ := List.cons.inj ht
      subst hd
      rcases ih front (offset + d.utf8Size) htail with h | ⟨front', w, rfl, hw⟩
      · rw [occurrencesFrom_cons hstep, byteLength_cons, ← Nat.add_assoc]
        exact Or.inl h
      · exact Or.inr ⟨d :: front', w, rfl, hw⟩

/-- The text in front of the first occurrence of a pattern. -/
def IsBeforeFirst (pattern t front : Text) : Prop :=
  (∃ rest, t = front ++ (pattern ++ rest)) ∧
    ∀ front' rest', t = front' ++ (pattern ++ rest') → front <+: front'

theorem head?_occurrencesFrom_eq_some {t : Text} {offset n : Nat}
    (h : (occurrencesFrom pattern 0 offset t).head? = some n) :
    ∃ front, IsBeforeFirst pattern t front ∧ n = offset + byteLength front := by
  induction t generalizing offset with
  | nil =>
    by_cases hnil : pattern = []
    · subst hnil
      simp only [occurrencesFrom, if_true, List.head?_cons, Option.some.injEq] at h
      exact ⟨[], ⟨⟨[], rfl⟩, fun _ _ _ => List.nil_prefix⟩, by simp [h]⟩
    · simp [occurrencesFrom, hnil] at h
  | cons c rest ih =>
    by_cases hstart : pattern <+: c :: rest
    · rw [occurrencesFrom, if_pos (by rwa [List.isPrefixOf_iff_prefix]), List.head?_cons] at h
      obtain ⟨rest', hrest'⟩ := hstart
      exact ⟨[], ⟨⟨rest', hrest'.symm⟩, fun _ _ _ => List.nil_prefix⟩, by simpa using h.symm⟩
    · rw [occurrencesFrom_cons hstart] at h
      obtain ⟨front, ⟨⟨rest', rfl⟩, hfirst⟩, rfl⟩ := ih h
      refine ⟨c :: front, ⟨⟨rest', rfl⟩, fun front' rest'' heq => ?_⟩, by simp [Nat.add_assoc]⟩
      cases front' with
      | nil => exact absurd ⟨rest'', heq.symm⟩ hstart
      | cons d front' =>
        obtain ⟨hc, htail⟩ := List.cons.inj heq
        exact List.cons_prefix_cons.mpr ⟨hc, hfirst front' rest'' htail⟩

theorem isSome_head?_occurrencesFrom (front rest : Text) (offset : Nat) :
    (occurrencesFrom pattern 0 offset (front ++ (pattern ++ rest))).head?.isSome = true := by
  generalize ht : front ++ (pattern ++ rest) = t
  induction t generalizing front offset with
  | nil => simp_all [occurrencesFrom]
  | cons c t ih =>
    by_cases hstart : pattern <+: c :: t
    · rw [occurrencesFrom, if_pos (by rwa [List.isPrefixOf_iff_prefix])]
      rfl
    · rw [occurrencesFrom_cons hstart]
      cases front with
      | nil => exact absurd ⟨rest, ht⟩ hstart
      | cons d front => exact ih front _ (List.cons.inj ht).2

theorem offsetOf?_eq_some_iff {t : Text} {n : Nat} :
    offsetOf? pattern t = some n ↔
      ∃ front, IsBeforeFirst pattern t front ∧ n = byteLength front := by
  constructor
  · intro h
    obtain ⟨front, hfirst, rfl⟩ := head?_occurrencesFrom_eq_some h
    exact ⟨front, hfirst, Nat.zero_add _⟩
  · rintro ⟨front, hfirst, rfl⟩
    obtain ⟨⟨rest, rfl⟩, hleast⟩ := hfirst
    have hsome : (occurrencesFrom pattern 0 0 (front ++ (pattern ++ rest))).head?.isSome = true :=
      isSome_head?_occurrencesFrom front rest 0
    obtain ⟨n, hn⟩ := Option.isSome_iff_exists.mp hsome
    obtain ⟨front', ⟨⟨rest', heq⟩, hleast'⟩, hn'⟩ := head?_occurrencesFrom_eq_some hn
    -- both stand before every occurrence, hence before each other
    have hsame : front = front' :=
      (hleast front' rest' heq).eq_of_length_le (hleast' front rest rfl).length_le
    rw [offsetOf?, occurrences, hn, hn', hsame, Nat.zero_add]

theorem hasPart_iff {t : Text} : hasPart pattern t = true ↔ pattern <:+: t := by
  rw [hasPart, Option.isSome_iff_exists]
  constructor
  · rintro ⟨n, hn⟩
    obtain ⟨front, ⟨⟨rest, rfl⟩, _⟩, _⟩ := offsetOf?_eq_some_iff.mp hn
    exact ⟨front, rest, by simp⟩
  · rintro ⟨front, rest, rfl⟩
    rw [List.append_assoc]
    exact Option.isSome_iff_exists.mp (isSome_head?_occurrencesFrom front rest 0)

/-! ### Separators -/

section Separator

variable {q : Char} (hq : q ∉ pattern)
include hq

theorem prefix_append_cons_iff {u v : Text} : pattern <+: u ++ q :: v ↔ pattern <+: u := by
  constructor
  · rintro ⟨rest, h⟩
    rcases List.append_eq_append_iff.mp h with ⟨w, rfl, _⟩ | ⟨w, rfl, hw⟩
    · exact List.prefix_append ..
    · cases w with
      | nil => exact (List.append_nil u).symm ▸ List.prefix_refl u
      | cons d w =>
        obtain ⟨rfl, _⟩ := List.cons.inj hw
        exact absurd (by simp) hq
  · exact fun h => h.trans (List.prefix_append ..)

theorem append_cons_eq_append {u v front rest : Text}
    (h : u ++ q :: v = front ++ (pattern ++ rest)) :
    (∃ r, u = front ++ (pattern ++ r) ∧ rest = r ++ q :: v) ∨
      ∃ f, front = u ++ q :: f ∧ v = f ++ (pattern ++ rest) := by
  rcases List.append_eq_append_iff.mp h with ⟨w, rfl, hw⟩ | ⟨w, rfl, hw⟩
  · cases w with
    | nil =>
      cases hp : pattern with
      | nil => exact Or.inl ⟨[], by simp, by simpa [hp] using hw.symm⟩
      | cons d tail =>
        rw [hp, List.nil_append, List.cons_append] at hw
        obtain ⟨rfl, _⟩ := List.cons.inj hw
        exact absurd (by simp [hp]) hq
    | cons d w =>
      obtain ⟨rfl, rfl⟩ := List.cons.inj hw
      exact Or.inr ⟨w, rfl, rfl⟩
  · rcases List.append_eq_append_iff.mp hw with ⟨r, rfl, rfl⟩ | ⟨r, hr, hv⟩
    · exact Or.inl ⟨r, rfl, rfl⟩
    · cases r with
      | nil => exact Or.inl ⟨[], by simpa using hr.symm, by simpa using hv.symm⟩
      | cons d r =>
        obtain ⟨rfl, _⟩ := List.cons.inj hv
        exact absurd (by simp [hr]) hq

theorem infix_append_cons_iff {u v : Text} :
    pattern <:+: u ++ q :: v ↔ pattern <:+: u ∨ pattern <:+: v := by
  constructor
  · rintro ⟨front, rest, h⟩
    rw [List.append_assoc] at h
    rcases append_cons_eq_append hq h.symm with ⟨r, rfl, _⟩ | ⟨f, _, rfl⟩
    · exact Or.inl ⟨front, r, by simp⟩
    · exact Or.inr ⟨f, rest, by simp⟩
  · rintro (h | h)
    · exact h.trans (List.prefix_append u (q :: v)).isInfix
    · exact (List.infix_cons h).trans (List.suffix_append u (q :: v)).isInfix

theorem replaceAll_append_cons (hne : pattern ≠ []) (new u v : Text) :
    replaceAll pattern new (u ++ q :: v)
      = replaceAll pattern new u ++ q :: replaceAll pattern new v := by
  unfold replaceAll
  induction u using search_induction hne with
  | nil =>
    have h : ¬ pattern <+: q :: v := by
      rw [← List.nil_append (q :: v), prefix_append_cons_iff hq, List.prefix_nil]
      exact hne
    rw [List.nil_append, replaceFrom_cons h]
    simp [replaceFrom, hne]
  | found rest ih =>
    rw [List.append_assoc, replaceFrom_append hne, replaceFrom_append hne, ih, List.append_assoc]
  | step c rest hstep ih =>
    have h : ¬ pattern <+: c :: (rest ++ q :: v) := by
      rwa [← List.cons_append, prefix_append_cons_iff hq]
    rw [List.cons_append, replaceFrom_cons h, replaceFrom_cons hstep, ih,
      List.cons_append]

end Separator

theorem replaceAll_of_not_infix (hne : pattern ≠ []) {t : Text} (h : ¬ pattern <:+: t)
    (new : Text) : replaceAll pattern new t = t := by
  unfold replaceAll
  induction t using search_induction hne with
  | nil => simp [replaceFrom, hne]
  | found rest _ => exact absurd (List.prefix_append _ rest).isInfix h
  | step c rest hstep ih =>
    rw [replaceFrom_cons hstep, ih fun hrest => h (List.infix_cons hrest)]

theorem replaceAll_self (hne : pattern ≠ []) (new : Text) :
    replaceAll pattern new pattern = new := by
  have h := replaceFrom_append hne new []
  rw [List.append_nil] at h
  rw [replaceAll, h]
  simp [replaceFrom, hne]

end ComponentStyles.Text
