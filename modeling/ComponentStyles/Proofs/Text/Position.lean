import ComponentStyles.Proofs.Text.Bytes
import ComponentStyles.Text.Position

/-!
# Positions of byte offsets

A position is faithful to a byte offset if the lines above it and the columns before it add up to the
offset (`Position.Faithful`), so that the offset can be told from it. `position_exact`: which offsets
have no position, namely those inside a character behind which a line ends, and which positions are
not faithful, namely those whose line or column does not fit into 32 bits.

Proof. Where the offset lies between characters, the line begins behind the last line break before it.
Inside a character, the last line break of the whole text counts. If there is none behind the
character, then that is the last one before it (`lineStart_append`), and otherwise the line begins
behind the offset (`lt_lineStart`).
-/

namespace ComponentStyles.Text

variable {t front rest : Text} {c : Char} {offset k : Nat} {p : Position}

/-- The number of bytes of the first lines of a text, with their line breaks. -/
def leadLength : Nat → Text → Nat
  | 0, _ => 0
  | _ + 1, [] => 0
  | n + 1, c :: rest => c.utf8Size + if c = '\n' then leadLength n rest else leadLength (n + 1) rest

@[simp] theorem leadLength_zero (t : Text) : leadLength 0 t = 0 :=
  leadLength.eq_1 t

/-- The position of a byte offset, counted out from the start of the text. -/
structure Position.Faithful (t : Text) (offset : Nat) (p : Position) : Prop where
  line : 1 ≤ p.line.toNat
  column : 1 ≤ p.column.toNat
  lines : p.line.toNat - 1 = ((toBytes t).take offset).count 0x0A
  columns : leadLength (p.line.toNat - 1) t + (p.column.toNat - 1) = offset

def linesAbove (t : Text) (offset : Nat) : Nat :=
  ((toBytes t).take offset).count 0x0A

/-- The number of bytes between the start of a byte offset's line and the offset. -/
def columnsBefore (t : Text) (offset : Nat) : Nat :=
  offset - leadLength (linesAbove t offset) t

/-- The position with the lines above and the columns before an offset, counted in 32 bits. -/
def positionOf (t : Text) (offset : Nat) : Position :=
  ⟨.ofNat (linesAbove t offset + 1), .ofNat (columnsBefore t offset + 1)⟩

/-! ### The start of the last line -/

def lineStart (t : Text) : Nat :=
  byteLength t - byteLength (lastLine t)

theorem lineStart_le (t : Text) : lineStart t ≤ byteLength t :=
  Nat.sub_le ..

theorem lastLine_append (front : Text) (h : '\n' ∉ rest) :
    lastLine (front ++ rest) = lastLine front ++ rest := by
  have hall : ∀ c ∈ rest.reverse, decide (c ≠ '\n') = true := by
    intro c hc
    rw [List.mem_reverse] at hc
    rw [decide_eq_true_iff]
    rintro rfl
    exact h hc
  rw [lastLine, lastLine, List.reverse_append, List.takeWhile_append_of_pos hall, List.reverse_append,
    List.reverse_reverse]

theorem lineStart_append (front : Text) (h : '\n' ∉ rest) :
    lineStart (front ++ rest) = lineStart front := by
  rw [lineStart, lastLine_append front h, byteLength_append, byteLength_append,
    Nat.add_sub_add_right, lineStart]

theorem lineStart_of_not_mem (h : '\n' ∉ t) : lineStart t = 0 :=
  lineStart_append [] h

theorem lineStart_append_newline (front : Text) :
    lineStart (front ++ ['\n']) = byteLength front + 1 := by
  have hlast : lastLine (front ++ ['\n']) = [] := by
    rw [lastLine, List.reverse_append]
    rfl
  rw [lineStart, hlast, byteLength_append]
  rfl

theorem exists_last_newline (h : '\n' ∈ t) :
    ∃ front rest, t = front ++ ['\n'] ++ rest ∧ '\n' ∉ rest := by
  obtain ⟨back, front, hsplit, hback⟩ := List.eq_append_cons_of_mem (List.mem_reverse.mpr h)
  refine ⟨front.reverse, back.reverse, ?_, by rwa [List.mem_reverse]⟩
  rw [← List.reverse_reverse t, hsplit, List.reverse_append, List.reverse_cons]

theorem lt_lineStart (front : Text) (h : '\n' ∈ rest) :
    byteLength front < lineStart (front ++ rest) := by
  obtain ⟨before, last, rfl, hlast⟩ := exists_last_newline h
  rw [← List.append_assoc, lineStart_append _ hlast, ← List.append_assoc, lineStart_append_newline,
    byteLength_append]
  omega

theorem leadLength_append_newline (front rest : Text) :
    leadLength (front.count '\n' + 1) (front ++ '\n' :: rest) = byteLength front + 1 := by
  induction front with
  | nil =>
    rw [List.nil_append, List.count_nil, leadLength, if_pos rfl, leadLength_zero]
    rfl
  | cons c front ih =>
    by_cases hc : c = '\n'
    · subst hc
      rw [List.count_cons_self, List.cons_append, leadLength, if_pos rfl, ih, byteLength_cons,
        Nat.add_assoc]
    · rw [List.count_cons_of_ne hc, List.cons_append, leadLength, if_neg hc, ih, byteLength_cons,
        Nat.add_assoc]

theorem leadLength_count (front rest : Text) :
    leadLength (front.count '\n') (front ++ rest) = lineStart front := by
  by_cases h : '\n' ∈ front
  · obtain ⟨before, last, rfl, hlast⟩ := exists_last_newline h
    rw [lineStart_append _ hlast, lineStart_append_newline, List.count_append, List.count_append,
      List.count_eq_zero.mpr hlast, List.append_assoc, List.append_assoc]
    exact leadLength_append_newline before (last ++ rest)
  · rw [lineStart_of_not_mem h, List.count_eq_zero.mpr h, leadLength_zero]

/-! ### Line breaks as bytes -/

theorem count_newline_toBytes (t : Text) : (toBytes t).count 0x0A = t.count '\n' :=
  count_toBytes (c := '\n') (by decide) t

theorem newline_mem_toBytes_iff (t : Text) : 0x0A ∈ toBytes t ↔ '\n' ∈ t := by
  rw [← List.count_pos_iff, count_newline_toBytes, List.count_pos_iff]

theorem newline_not_mem_of_inside (hpos : 0 < k) (hk : k < c.utf8Size) :
    (0x0A : UInt8) ∉ String.utf8EncodeChar c := by
  have hlarge : ¬ c.toNat < 128 := by
    intro hc
    rw [utf8Size_of_lt hc] at hk
    omega
  intro hmem
  exact absurd (le_toNat_of_mem (Nat.le_of_not_lt hlarge) hmem) (by decide)

theorem le_length_utf8EncodeChar (hk : k < c.utf8Size) : k ≤ (String.utf8EncodeChar c).length := by
  rw [String.length_utf8EncodeChar]
  exact Nat.le_of_lt hk

theorem count_take_of_inside (front rest : Text) (hpos : 0 < k) (hk : k < c.utf8Size) :
    ((toBytes (front ++ c :: rest)).take (byteLength front + k)).count 0x0A = front.count '\n' := by
  have hnone : ((String.utf8EncodeChar c).take k).count 0x0A = 0 :=
    List.count_eq_zero.mpr fun hmem => newline_not_mem_of_inside hpos hk (List.mem_of_mem_take hmem)
  have hle := le_length_utf8EncodeChar hk
  rw [toBytes_append, toBytes_cons, ← length_toBytes, List.take_length_add_append,
    List.take_append_of_le_length hle, List.count_append, count_newline_toBytes, hnone, Nat.add_zero]

theorem newline_mem_drop_of_inside (front rest : Text) (hpos : 0 < k) (hk : k < c.utf8Size) :
    0x0A ∈ (toBytes (front ++ c :: rest)).drop (byteLength front + k) ↔ '\n' ∈ rest := by
  have hle := le_length_utf8EncodeChar hk
  rw [toBytes_append, toBytes_cons, ← length_toBytes, List.drop_length_add_append,
    List.drop_append_of_le_length hle, List.mem_append, newline_mem_toBytes_iff]
  exact or_iff_right fun hmem => newline_not_mem_of_inside hpos hk (List.mem_of_mem_drop hmem)

/-! ### Positions -/

theorem position?_eq (offset : Nat) (t : Text) :
    position? offset t =
      let o := min offset (byteLength t)
      let before := (splitAtByte? o t).elim t (·.1)
      if lineStart before ≤ o then
        some ⟨.ofNat (before.count '\n' + 1), .ofNat (o - lineStart before + 1)⟩
      else none :=
  rfl

/-- The position in the last line of a part of the text. -/
def positionBehind (front : Text) (offset : Nat) : Position :=
  ⟨.ofNat (front.count '\n' + 1), .ofNat (offset - lineStart front + 1)⟩

theorem positionBehind_eq (rest : Text) (hlines : linesAbove (front ++ rest) offset = front.count '\n') :
    positionBehind front offset = positionOf (front ++ rest) offset := by
  rw [positionOf, columnsBefore, hlines, leadLength_count, positionBehind]

theorem leadLength_linesAbove_le (rest : Text) (hle : byteLength front ≤ offset)
    (hlines : linesAbove (front ++ rest) offset = front.count '\n') :
    leadLength (linesAbove (front ++ rest) offset) (front ++ rest) ≤ offset := by
  rw [hlines, leadLength_count]
  exact Nat.le_trans (lineStart_le front) hle

theorem toNat_ofNat_succ_eq_iff (n : Nat) :
    (1 ≤ (UInt32.ofNat (n + 1)).toNat ∧ (UInt32.ofNat (n + 1)).toNat - 1 = n) ↔
      n + 1 < UInt32.size := by
  constructor
  · rintro ⟨hpos, hpred⟩
    have hlt := (UInt32.ofNat (n + 1)).toNat_lt_size
    omega
  · intro h
    rw [UInt32.toNat_ofNat_of_lt' h]
    exact ⟨Nat.le_add_left 1 n, Nat.add_sub_cancel ..⟩

theorem faithful_positionOf_iff (hle : leadLength (linesAbove t offset) t ≤ offset) :
    (positionOf t offset).Faithful t offset ↔
      linesAbove t offset + 1 < UInt32.size ∧ columnsBefore t offset + 1 < UInt32.size := by
  rw [← toNat_ofNat_succ_eq_iff, ← toNat_ofNat_succ_eq_iff]
  constructor
  · rintro ⟨hline, hcolumn, hlines, hcolumns⟩
    refine ⟨⟨hline, hlines⟩, hcolumn, ?_⟩
    rw [hlines] at hcolumns
    -- `hlines` brings in the count that `linesAbove` stands for
    change leadLength (linesAbove t offset) t + _ = offset at hcolumns
    rw [columnsBefore]
    exact Nat.eq_sub_of_add_eq' hcolumns
  · rintro ⟨⟨hline, hlines⟩, hcolumn, hcolumns⟩
    refine ⟨hline, hcolumn, hlines, ?_⟩
    change leadLength ((UInt32.ofNat (linesAbove t offset + 1)).toNat - 1) t
      + ((UInt32.ofNat (columnsBefore t offset + 1)).toNat - 1) = offset
    rw [hlines, hcolumns, columnsBefore]
    exact Nat.add_sub_of_le hle

theorem position?_of_boundary (h : byteLength front = min offset (byteLength (front ++ rest))) :
    position? offset (front ++ rest) = some (positionBehind front (byteLength front)) := by
  have hsplit : splitAtByte? (byteLength front) (front ++ rest) = some (front, rest) :=
    splitAtByte?_eq_some_iff.mpr ⟨rfl, rfl⟩
  rw [position?_eq, ← h]
  dsimp only
  rw [hsplit]
  exact if_pos (lineStart_le front)

theorem position?_of_not_boundary {o : Nat} (ho : min offset (byteLength t) = o)
    (h : splitAtByte? o t = none) :
    position? offset t = if lineStart t ≤ o then some (positionBehind t o) else none := by
  rw [position?_eq, ho]
  dsimp only
  rw [h]
  rfl

theorem position?_of_inside (hpos : 0 < k) (hk : k < c.utf8Size)
    (ho : min offset (byteLength (front ++ c :: rest)) = byteLength front + k)
    (h : splitAtByte? (byteLength front + k) (front ++ c :: rest) = none) :
    position? offset (front ++ c :: rest)
      = if '\n' ∈ rest then none else some (positionBehind front (byteLength front + k)) := by
  rw [position?_of_not_boundary ho h]
  by_cases hrest : '\n' ∈ rest
  · have hbehind : byteLength (front ++ [c]) < lineStart (front ++ [c] ++ rest) :=
      lt_lineStart _ hrest
    rw [List.append_assoc, byteLength_append] at hbehind
    have hsize : byteLength [c] = c.utf8Size := rfl
    rw [if_pos hrest, if_neg]
    change ¬ lineStart (front ++ ([c] ++ rest)) ≤ _
    omega
  · have hnot : '\n' ∉ c :: rest := by
      rw [List.mem_cons, not_or]
      refine ⟨?_, hrest⟩
      rintro rfl
      exact newline_not_mem_of_inside hpos hk (by decide)
    have hstart := lineStart_le front
    rw [if_neg hrest, lineStart_append front hnot, if_pos (by omega), positionBehind, positionBehind,
      lineStart_append front hnot, List.count_append, List.count_eq_zero.mpr hnot, Nat.add_zero]

theorem exists_inside {o : Nat} (ho : o ≤ byteLength t) (h : splitAtByte? o t = none) :
    ∃ front c rest k, t = front ++ c :: rest ∧ o = byteLength front + k ∧ 0 < k ∧ k < c.utf8Size := by
  have hboundary : ∀ front rest, t = front ++ rest → byteLength front ≠ o := by
    intro front rest ht hfront
    rw [splitAtByte?_eq_some_iff.mpr ⟨ht, hfront⟩] at h
    cases h
  have hlt : o < byteLength t :=
    Nat.lt_of_le_of_ne ho (hboundary t [] (List.append_nil t).symm).symm
  obtain ⟨front, c, rest, k, ht, hk, hsize⟩ := exists_char_at hlt
  refine ⟨front, c, rest, k, ht, hk, Nat.pos_of_ne_zero ?_, hsize⟩
  rintro rfl
  exact hboundary front (c :: rest) ht hk.symm

/-- A byte offset has the position that it should, or it lies inside a character with a line break
behind. -/
theorem position?_cases (offset : Nat) (t : Text) {o : Nat} (ho : min offset (byteLength t) = o) :
    (position? offset t = some (positionOf t o) ∧ leadLength (linesAbove t o) t ≤ o ∧
      (isBoundary o t = true ∨ 0x0A ∉ (toBytes t).drop o)) ∨
    position? offset t = none ∧ isBoundary o t = false ∧ 0x0A ∈ (toBytes t).drop o := by
  cases hsplit : splitAtByte? o t with
  | some parts =>
    obtain ⟨front, rest⟩ := parts
    have hboundary : isBoundary o t = true := by
      rw [isBoundary, hsplit]
      rfl
    obtain ⟨rfl, rfl⟩ := splitAtByte?_eq_some_iff.mp hsplit
    have hlines : linesAbove (front ++ rest) (byteLength front) = front.count '\n' := by
      rw [linesAbove, toBytes_append, ← length_toBytes, List.take_left, count_newline_toBytes]
    refine Or.inl ⟨?_, leadLength_linesAbove_le rest (Nat.le_refl _) hlines, Or.inl hboundary⟩
    rw [position?_of_boundary ho.symm, positionBehind_eq rest hlines]
  | none =>
    have hboundary : isBoundary o t = false := by
      rw [isBoundary, hsplit]
      rfl
    have hle : o ≤ byteLength t := by
      rw [← ho]
      exact Nat.min_le_right ..
    obtain ⟨front, c, rest, k, rfl, rfl, hpos, hk⟩ := exists_inside hle hsplit
    have hposition := position?_of_inside hpos hk ho hsplit
    have hdrop := newline_mem_drop_of_inside front rest hpos hk
    have hlines := count_take_of_inside front rest hpos hk
    by_cases hrest : '\n' ∈ rest
    · -- the last line of the whole text begins behind the offset
      rw [if_pos hrest] at hposition
      exact Or.inr ⟨hposition, hboundary, hdrop.mpr hrest⟩
    · rw [if_neg hrest, positionBehind_eq (c :: rest) hlines] at hposition
      refine Or.inl ⟨hposition, ?_, Or.inr (mt hdrop.mp hrest)⟩
      exact leadLength_linesAbove_le (c :: rest) (Nat.le_add_right ..) hlines

/-- An offset has no position just if it lies, clamped to the text, inside a character and a line
break comes behind it. A position that there is counts the lines above and the columns before in 32
bits, is faithful just if both fit, and then belongs to one offset within the text only. -/
theorem position_exact (offset : Nat) (t : Text) :
    let o := min offset (byteLength t)
    (position? offset t = none ↔ isBoundary o t = false ∧ 0x0A ∈ (toBytes t).drop o) ∧
    ∀ p, position? offset t = some p →
      p = positionOf t o ∧
      (p.Faithful t o ↔ linesAbove t o + 1 < UInt32.size ∧ columnsBefore t o + 1 < UInt32.size) ∧
      (p.Faithful t o → ∀ offset', position? offset' t = some p →
        p.Faithful t (min offset' (byteLength t)) → min offset' (byteLength t) = o) := by
  intro o
  rcases position?_cases offset t rfl with ⟨hsome, hlead, hcond⟩ | ⟨hnone, hcond⟩
  · refine ⟨iff_of_false (by rw [hsome]; exact Option.some_ne_none _) ?_, fun p hp => ?_⟩
    · rintro ⟨hinside, hbreak⟩
      rcases hcond with hboundary | hfree
      · rw [hinside] at hboundary
        cases hboundary
      · exact hfree hbreak
    · obtain rfl := Option.some.inj (hsome.symm.trans hp)
      refine ⟨rfl, faithful_positionOf_iff hlead, fun hfaithful offset' _ hfaithful' => ?_⟩
      rw [← hfaithful.columns, ← hfaithful'.columns]
  · refine ⟨iff_of_true hnone hcond, fun p hp => ?_⟩
    rw [hnone] at hp
    cases hp

/-- The offset is inside the first character, and the line ends behind it. -/
theorem no_position_in_line :
    let t : Text := "é\n".toList
    1 ≤ byteLength t ∧ ¬ ∃ p, position? 1 t = some p ∧ p.Faithful t 1 := by
  refine ⟨by decide, ?_⟩
  rintro ⟨p, hp, _⟩
  have hnone : position? 1 "é\n".toList = none := by decide
  rw [hnone] at hp
  cases hp

end ComponentStyles.Text
