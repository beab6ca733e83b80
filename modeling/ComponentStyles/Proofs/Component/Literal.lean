import ComponentStyles.Proofs.Component.Styles
import ComponentStyles.Proofs.Text.Occurrence

/-!
# Style texts inside string literals

A placeholder stands inside a string in double quotes, and so do the style texts that take its
place. Whatever texts have been stored, reading that string gives them back without their line
breaks: for each key its last text, in the order in which the keys came first, with a space between
them (`unquote_styles`).

Proof. Escaping replaces line breaks, backslashes and quotes one after the other, which amounts to
replacing each character by itself (`escapeStyle_eq_replaceAll`). So a reader that meets an escaped
text goes on behind it with that text in hand (`unquote?_escapeStyle_append`): it never sees half of
an escape, even if a text ends with a backslash. The spaces between the texts stand for themselves,
and what is stored under the keys is known from `StoredBy`.
-/

namespace ComponentStyles

/-! ### Replacing characters -/

namespace Text

theorem replaceAll_singleton (q : Char) (new t : Text) :
    replaceAll [q] new t = t.flatMap fun c => if c = q then new else [c] := by
  have hne : [q] ≠ [] := List.cons_ne_nil _ _
  unfold replaceAll
  induction t using search_induction hne with
  | nil => rfl
  | found rest ih =>
    rw [replaceFrom_append hne, ih, List.singleton_append, List.flatMap_cons, if_pos rfl]
  | step c rest hstep ih =>
    have hc : c ≠ q := by
      rintro rfl
      exact hstep (List.prefix_append [c] rest)
    rw [replaceFrom_cons hstep, ih, List.flatMap_cons, if_neg hc, List.singleton_append]

def withoutBreaks (t : Text) : Text :=
  t.filter fun c => c ≠ '\n' ∧ c ≠ '\r'

theorem withoutBreaks_cons (c : Char) (t : Text) :
    withoutBreaks (c :: t) = withoutBreaks [c] ++ withoutBreaks t :=
  List.filter_append [c] t

theorem withoutBreaks_replaceAll_pair (t : Text) :
    withoutBreaks (replaceAll ['\r', '\n'] [] t) = withoutBreaks t := by
  have hne : ['\r', '\n'] ≠ [] := List.cons_ne_nil _ _
  unfold replaceAll
  induction t using search_induction hne with
  | nil => rfl
  | found rest ih =>
    rw [replaceFrom_append hne, List.nil_append, ih]
    rfl
  | step c rest hstep ih =>
    rw [replaceFrom_cons hstep, withoutBreaks_cons, ih, ← withoutBreaks_cons]

end Text

namespace Component

/-- The escapes are put in by four replacements, of which the one for backslashes comes before the
one for quotes. -/
theorem escapeStyle_eq_replaceAll (t : Text) :
    escapeStyle t
      = Text.replaceAll ['"'] ['\\', '"']
          (Text.replaceAll ['\\'] ['\\', '\\']
            (Text.withoutBreaks (Text.replaceAll ['\r', '\n'] [] t))) := by
  rw [Text.withoutBreaks_replaceAll_pair, Text.replaceAll_singleton, Text.replaceAll_singleton,
    escapeStyle]
  induction t with
  | nil => rfl
  | cons c t ih =>
    rw [Text.withoutBreaks_cons, List.flatMap_append, List.flatMap_append, List.flatMap_cons, ih]
    congr 1
    by_cases hbreak : c = '\n' ∨ c = '\r'
    · rcases hbreak with rfl | rfl <;> rfl
    · obtain ⟨hn, hr⟩ := not_or.mp hbreak
      by_cases hslash : c = '\\'
      · rw [hslash]
        rfl
      · by_cases hquote : c = '"'
        · rw [hquote]
          rfl
        · simp [escapeChar, Text.withoutBreaks, hn, hr, hslash, hquote]

/-! ### Reading a literal -/

/-- What the inside of a string in double quotes says. A backslash makes the backslash or the quote
behind it part of the text, and nothing else may stand behind one; a quote without one would end the
string, and a line break may not stand in it. -/
def unquote? : Text → Option Text
  | [] => some []
  | '\\' :: c :: rest =>
    if c = '\\' ∨ c = '"' then (unquote? rest).map (c :: ·) else none
  | c :: rest =>
    -- a backslash gets here only at the end of the text
    if c = '\\' ∨ c = '"' ∨ c = '\n' ∨ c = '\r' then none else (unquote? rest).map (c :: ·)

theorem unquote?_cons {c : Char} (h : ¬ (c = '\\' ∨ c = '"' ∨ c = '\n' ∨ c = '\r'))
    (rest : Text) : unquote? (c :: rest) = (unquote? rest).map (c :: ·) := by
  have hslash : c ≠ '\\' := fun hc => h (Or.inl hc)
  rw [unquote?.eq_3 _ _ fun _ _ hc _ => hslash hc, if_neg h]

theorem unquote?_escapeChar_append (c : Char) (rest : Text) :
    unquote? (escapeChar c ++ rest) = (unquote? rest).map (Text.withoutBreaks [c] ++ ·) := by
  by_cases hbreak : c = '\n' ∨ c = '\r'
  · have hgone : escapeChar c = [] := if_pos hbreak
    have hnone : Text.withoutBreaks [c] = [] := by
      rcases hbreak with rfl | rfl <;> rfl
    rw [hgone, hnone]
    simp
  · obtain ⟨hn, hr⟩ := not_or.mp hbreak
    have hkept : Text.withoutBreaks [c] = [c] := by
      simp [Text.withoutBreaks, hn, hr]
    rw [hkept, escapeChar, if_neg hbreak]
    by_cases hslash : c = '\\'
    · rw [if_pos hslash, hslash]
      rfl
    · by_cases hquote : c = '"'
      · rw [if_neg hslash, if_pos hquote, hquote]
        rfl
      · rw [if_neg hslash, if_neg hquote]
        exact unquote?_cons (by simp [hslash, hquote, hn, hr]) rest

/-- A reader that meets an escaped text goes on behind it. -/
theorem unquote?_escapeStyle_append (t rest : Text) :
    unquote? (escapeStyle t ++ rest) = (unquote? rest).map (Text.withoutBreaks t ++ ·) := by
  induction t with
  | nil => simp [escapeStyle, Text.withoutBreaks]
  | cons c t ih =>
    have hcons : escapeStyle (c :: t) = escapeChar c ++ escapeStyle t := List.flatMap_cons
    rw [hcons, List.append_assoc, unquote?_escapeChar_append, ih, Option.map_map]
    congr 1
    funext u
    rw [Text.withoutBreaks_cons c t, List.append_assoc]
    rfl

theorem unquote?_join_escapeStyle (ts : List Text) :
    unquote? (Text.join [' '] (ts.map escapeStyle))
      = some (Text.join [' '] (ts.map Text.withoutBreaks)) := by
  induction ts with
  | nil => rfl
  | cons t ts ih =>
    cases ts with
    | nil =>
      have h := unquote?_escapeStyle_append t []
      rw [List.append_nil] at h
      simpa [Text.join, unquote?] using h
    | cons t' ts =>
      have hspace : unquote? (' ' :: Text.join [' '] ((t' :: ts).map escapeStyle))
          = some (' ' :: Text.join [' '] ((t' :: ts).map Text.withoutBreaks)) := by
        rw [unquote?_cons (by decide), ih, Option.map_some]
      simp only [List.map_cons, Text.join, List.append_assoc, List.singleton_append] at hspace ⊢
      rw [unquote?_escapeStyle_append, hspace, Option.map_some]

/-! ### What is stored -/

def recordStyles (s : Settings) (blocks : List (ModuleId × Text)) (c : Component) : Component :=
  blocks.foldl (fun c block => recordStyle s block.1 block.2 c) c

/-- For each key the last of its texts, in the order in which the keys come first. -/
def lastTexts (writes : List (Text × Text)) : List Text :=
  (writes.map (·.1)).eraseDups.filterMap fun key =>
    (writes.filter fun w => w.1 = key).getLast?.map (·.2)

theorem StoredBy.texts_eq {writes entries : List (Text × Text)} (h : StoredBy writes entries) :
    entries.map (·.2) = lastTexts writes := by
  have hlast : ∀ entry ∈ entries,
      (writes.filter fun w => w.1 = entry.1).getLast?.map (·.2) = some entry.2 := by
    intro entry hentry
    rw [h.last entry.1 entry.2 hentry, Option.map_some]
  rw [lastTexts, ← h.keys, List.filterMap_map, ← List.filterMap_eq_map]
  exact (List.filterMap_congr hlast).symm

theorem lastTexts_map (f : Text → Text) (writes : List (Text × Text)) :
    lastTexts (writes.map fun w => (w.1, f w.2)) = (lastTexts writes).map f := by
  rw [lastTexts, lastTexts, List.map_filterMap, List.map_map]
  refine List.filterMap_congr fun key _ => ?_
  rw [List.filter_map, List.getLast?_map, Option.map_map, Option.map_map]
  rfl

theorem storedBy_recordStyles {s : Settings} {writes : List (Text × Text)} {c : Component}
    (h : StoredBy writes c.css) (blocks : List (ModuleId × Text)) :
    StoredBy
      (writes ++ blocks.map fun block => (ModuleId.styleKey s block.1, escapeStyle block.2))
      (recordStyles s blocks c).css := by
  induction blocks generalizing writes c with
  | nil => simpa [recordStyles] using h
  | cons block blocks ih =>
    have hfirst : StoredBy (writes ++ [(ModuleId.styleKey s block.1, escapeStyle block.2)])
        (recordStyle s block.1 block.2 c).css := h.putText _ _
    have hall := ih hfirst
    rwa [List.append_assoc] at hall

/-- Reading the styles of a component as the inside of a string gives back, for each key, the last
text without its line breaks. -/
theorem unquote_styles (s : Settings) (blocks : List (ModuleId × Text)) (c : Component) :
    unquote? (recordStyles s blocks { c with css := [] }).styles
      = some (Text.join [' '] ((lastTexts
          (blocks.map fun block => (ModuleId.styleKey s block.1, block.2))).map
            Text.withoutBreaks)) := by
  have hstored : StoredBy
      (blocks.map fun block => (ModuleId.styleKey s block.1, escapeStyle block.2))
      (recordStyles s blocks { c with css := [] }).css :=
    storedBy_recordStyles (c := { c with css := [] }) StoredBy.nil blocks
  have hescaped := lastTexts_map escapeStyle
    (blocks.map fun block => (ModuleId.styleKey s block.1, block.2))
  rw [List.map_map] at hescaped
  have htexts : (recordStyles s blocks { c with css := [] }).css.map (·.2)
      = (lastTexts (blocks.map fun block => (ModuleId.styleKey s block.1, block.2))).map
          escapeStyle := hstored.texts_eq.trans hescaped
  rw [styles, htexts]
  exact unquote?_join_escapeStyle _

/-- A text that ends with a backslash, and one that takes the place of another. -/
example :
    let blocks : List (ModuleId × Text) :=
      [("A.vue?index=0".toList, "a".toList), ("A.vue?index=1".toList, "b\\".toList),
        ("A.vue?index=0&scoped".toList, "\\\r\n\"".toList)]
    unquote? (recordStyles {} blocks (fresh [] [])).styles = some "\\\" b\\".toList := by
  decide +kernel

end Component

end ComponentStyles
