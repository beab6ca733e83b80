/-!
# Texts and byte offsets

A text is a list of characters. Offsets into a text count the bytes of its UTF-8 form, so an
offset is usable only where it falls between two characters; `splitAtByte?` is the one place that
decides this, and everything that cuts a text goes through it.
-/

namespace ComponentStyles

/-- A text, character by character. -/
abbrev Text := List Char

namespace Text

/-- The number of bytes of the UTF-8 form. -/
def byteLength : Text → Nat
  | [] => 0
  | c :: rest => c.utf8Size + byteLength rest

/-- The two parts of a text around a byte offset; none when the offset lies past the end or inside
a character. -/
def splitAtByte? : Nat → Text → Option (Text × Text)
  | 0, t => some ([], t)
  | _ + 1, [] => none
  | n + 1, c :: rest =>
    if c.utf8Size ≤ n + 1 then
      (splitAtByte? (n + 1 - c.utf8Size) rest).map fun (before, after) => (c :: before, after)
    else none

/-- Whether a byte offset falls between two characters, or at either end. -/
def isBoundary (n : Nat) (t : Text) : Bool :=
  (t.splitAtByte? n).isSome

/-- The text from one byte offset to another. -/
def slice? (start stop : Nat) (t : Text) : Option Text :=
  if start ≤ stop then
    (t.splitAtByte? start).bind fun (_, tail) => (tail.splitAtByte? (stop - start)).map (·.1)
  else none

/-- Whether the text ends with another text. -/
def endsWith (tail t : Text) : Bool :=
  tail.isSuffixOf t

/-- The parts of a text between the occurrences of a character. -/
def splitOnChar (sep : Char) : Text → List Text
  | [] => [[]]
  | c :: rest =>
    if c = sep then [] :: splitOnChar sep rest
    else
      match splitOnChar sep rest with
      | [] => [[c]]
      | part :: parts => (c :: part) :: parts

/-- The text before the first occurrence of a character and the text after it. -/
def splitFirst? (sep : Char) : Text → Option (Text × Text)
  | [] => none
  | c :: rest =>
    if c = sep then some ([], rest)
    else (splitFirst? sep rest).map fun (before, after) => (c :: before, after)

/-- The text before the first occurrence of a character, or all of it. -/
def before (sep : Char) (t : Text) : Text :=
  t.takeWhile (· ≠ sep)

/-- Whether a test holds of the text or of what is left of it behind some of its characters. -/
def anyTail (test : Text → Bool) : Text → Bool
  | [] => test []
  | c :: rest => test (c :: rest) || anyTail test rest

/-- Texts joined by a separator. -/
def join (sep : Text) : List Text → Text
  | [] => []
  | [t] => t
  | t :: ts => t ++ sep ++ join sep ts

theorem anyTail_eq_true_iff {test : Text → Bool} {t : Text} :
    anyTail test t = true ↔ ∃ front tail, t = front ++ tail ∧ test tail = true := by
  induction t with
  | nil =>
    constructor
    · exact fun h => ⟨[], [], rfl, h⟩
    · rintro ⟨front, tail, h, ht⟩
      obtain ⟨rfl, rfl⟩ := List.append_eq_nil_iff.mp h.symm
      exact ht
  | cons c rest ih =>
    simp only [anyTail, Bool.or_eq_true, ih]
    constructor
    · rintro (h | ⟨front, tail, rfl, h⟩)
      · exact ⟨[], c :: rest, rfl, h⟩
      · exact ⟨c :: front, tail, rfl, h⟩
    · rintro ⟨front, tail, h, ht⟩
      cases front with
      | nil => exact Or.inl (h ▸ ht)
      | cons d front =>
        simp only [List.cons_append, List.cons.injEq] at h
        exact Or.inr ⟨front, tail, h.2, ht⟩

@[simp] theorem byteLength_nil : byteLength [] = 0 := rfl

@[simp] theorem byteLength_cons (c : Char) (t : Text) :
    byteLength (c :: t) = c.utf8Size + byteLength t := rfl

@[simp] theorem byteLength_append (s t : Text) :
    byteLength (s ++ t) = byteLength s + byteLength t := by
  induction s with
  | nil => simp
  | cons c s ih => simp [ih, Nat.add_assoc]

theorem eq_nil_of_byteLength_eq_zero {t : Text} (h : byteLength t = 0) : t = [] := by
  cases t with
  | nil => rfl
  | cons c t =>
    rw [byteLength_cons] at h
    have := c.utf8Size_pos
    omega

@[simp] theorem splitAtByte?_zero (t : Text) : splitAtByte? 0 t = some ([], t) := by
  simp [splitAtByte?]

/-- The parts of a cut are the text again, and the first part has the length asked for. -/
theorem splitAtByte?_eq_some_iff {n : Nat} {t before after : Text} :
    splitAtByte? n t = some (before, after) ↔ t = before ++ after ∧ byteLength before = n := by
  induction t generalizing n before after with
  | nil =>
    cases n with
    | zero =>
      simp only [splitAtByte?_zero, Option.some.injEq, Prod.mk.injEq]
      constructor
      · rintro ⟨rfl, rfl⟩; simp
      · rintro ⟨h, _⟩
        obtain ⟨rfl, rfl⟩ := List.append_eq_nil_iff.mp h.symm
        simp
    | succ n =>
      simp only [splitAtByte?, false_iff, reduceCtorEq]
      rintro ⟨h, hn⟩
      obtain ⟨rfl, rfl⟩ := List.append_eq_nil_iff.mp h.symm
      simp at hn
  | cons c rest ih =>
    have hc : 0 < c.utf8Size := c.utf8Size_pos
    cases n with
    | zero =>
      simp only [splitAtByte?_zero, Option.some.injEq, Prod.mk.injEq]
      constructor
      · rintro ⟨rfl, rfl⟩; simp
      · rintro ⟨h, hn⟩
        cases before with
        | nil => simp_all
        | cons d before => simp at hn; have := d.utf8Size_pos; omega
    | succ n =>
      simp only [splitAtByte?]
      split
      · rename_i hle
        simp only [Option.map_eq_some_iff, Prod.mk.injEq, Prod.exists]
        constructor
        · rintro ⟨before', after', h, rfl, rfl⟩
          obtain ⟨rfl, hn⟩ := ih.mp h
          simp; omega
        · rintro ⟨h, hn⟩
          cases before with
          | nil => simp at hn
          | cons d before =>
            simp only [List.cons_append, List.cons.injEq] at h
            obtain ⟨rfl, rfl⟩ := h
            simp only [byteLength_cons] at hn
            exact ⟨before, after, ih.mpr ⟨rfl, by omega⟩, rfl, rfl⟩
      · rename_i hle
        simp only [false_iff, reduceCtorEq]
        rintro ⟨h, hn⟩
        cases before with
        | nil => simp at hn
        | cons d before =>
          simp only [List.cons_append, List.cons.injEq] at h
          obtain ⟨rfl, rfl⟩ := h
          simp only [byteLength_cons] at hn
          omega

end Text

end ComponentStyles
