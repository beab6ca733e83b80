import ComponentStyles.Shape
import Mathlib.Tactic.ByContra

/-!
# Where the guard and the call are put

`splitExport_eq_iff` says which `export` is taken off the end of a text: the word, perhaps with
`default` behind it, each with blanks behind, where a word may begin. It is unique, because a text
ends in `export` and blanks or in `default` and blanks, and not in both.

`intoFunction_eq_ok_iff` says what comes of a function with a body: it fails exactly when the
function does not fit the text (`exists_intoFunction_eq_ok`), and otherwise the text is kept in
three parts with the guard declared before the `export` of the function, if any, and the call behind
the brace of its body.
-/

namespace ComponentStyles

/-! ### The texts of the injector -/

namespace Component

-- the equations that unfolding would generate are slow to make, because of the string literals
theorem guardDeclaration_def (c : Component) :
    c.guardDeclaration = ";let ".toList ++ c.guardName ++ " = false;\n".toList :=
  rfl

theorem guardedCall_def (routine : Text) (c : Component) :
    c.guardedCall routine = "\nif (!".toList ++ c.guardName ++ ") \x7b\n    ".toList ++ routine
      ++ "(\"".toList ++ c.placeholder ++ "\",\"".toList ++ c.id ++ "\");\n    ".toList
      ++ c.guardName ++ " = true;\n\x7d\n".toList :=
  rfl

end Component

namespace Injection

/-! ### The export before a function -/

def exportWord : Text := "export".toList

def defaultWord : Text := "default".toList

def Blanks (t : Text) : Prop := t ≠ [] ∧ ∀ ch ∈ t, Text.isBlank ch = true

/-- A text that is taken for the `export` of what follows. -/
inductive ExportPhrase : Text → Prop where
  | named {blanks : Text} (h : Blanks blanks) : ExportPhrase (exportWord ++ blanks)
  | default {blanks blanks' : Text} (h : Blanks blanks) (h' : Blanks blanks') :
    ExportPhrase (exportWord ++ (blanks ++ (defaultWord ++ blanks')))

/-- A word may begin behind the text. -/
def StandsAlone (front : Text) : Prop :=
  ∀ ch, front.getLast? = some ch → Text.isWordChar ch = false ∧ ch ≠ '$'

/-- The text ends in what is taken for an `export`. -/
def EndsInExport (t : Text) : Prop :=
  ∃ front phrase, t = front ++ phrase ∧ ExportPhrase phrase ∧ StandsAlone front

theorem wordMayFollow_reverse {front : Text} :
    wordMayFollow front.reverse = true ↔ StandsAlone front := by
  rcases List.eq_nil_or_concat front with rfl | ⟨front, ch, rfl⟩
  · simp [wordMayFollow, StandsAlone]
  · simp [wordMayFollow, StandsAlone]

theorem endsInWord_append (word rest : Text) :
    endsInWord word (word ++ rest) = wordMayFollow rest := by
  have hstart : word.isPrefixOf (word ++ rest) = true :=
    List.isPrefixOf_iff_prefix.mpr (List.prefix_append ..)
  rw [endsInWord, hstart, Bool.true_and, List.drop_left]

theorem endsInWord_eq_true {word r : Text} (h : endsInWord word r = true) :
    ∃ rest, r = word ++ rest ∧ wordMayFollow rest = true := by
  rw [endsInWord, Bool.and_eq_true, List.isPrefixOf_iff_prefix] at h
  obtain ⟨⟨rest, rfl⟩, hrest⟩ := h
  rw [List.drop_left] at hrest
  exact ⟨rest, rfl, hrest⟩

theorem takeWhile_blanks {blanks : Text} (hb : ∀ ch ∈ blanks, Text.isBlank ch = true) {ch : Char}
    (hch : Text.isBlank ch = false) (rest : Text) :
    (blanks ++ ch :: rest).takeWhile Text.isBlank = blanks := by
  rw [List.takeWhile_append_of_pos hb, List.takeWhile_cons_of_neg (by simp [hch]), List.append_nil]

theorem takeWhile_blanks_export {blanks : Text} (h : Blanks blanks) (rest : Text) :
    (blanks.reverse ++ (exportWord.reverse ++ rest)).takeWhile Text.isBlank = blanks.reverse := by
  have hword : exportWord.reverse = 't' :: "ropxe".toList := by decide
  rw [hword, List.cons_append]
  exact takeWhile_blanks (by simpa using h.2) (by decide) _

theorem takeWhile_blanks_default {blanks : Text} (h : Blanks blanks) (rest : Text) :
    (blanks.reverse ++ (defaultWord.reverse ++ rest)).takeWhile Text.isBlank = blanks.reverse := by
  have hword : defaultWord.reverse = 't' :: "luafed".toList := by decide
  rw [hword, List.cons_append]
  exact takeWhile_blanks (by simpa using h.2) (by decide) _

theorem exportLength_export {blanks rest : Text} (h : Blanks blanks)
    (hrest : wordMayFollow rest = true) :
    exportLength (blanks.reverse ++ (exportWord.reverse ++ rest))
      = blanks.length + exportWord.length := by
  have hlength : blanks.reverse.length ≠ 0 := by simpa using h.1
  have hword : endsInWord exportWord.reverse (exportWord.reverse ++ rest) = true := by
    rw [endsInWord_append, hrest]
  rw [exportLength, takeWhile_blanks_export h, List.drop_left, if_neg hlength, List.length_reverse]
  exact if_pos hword

theorem exportLength_default {blanks rest : Text} (h : Blanks blanks) :
    exportLength (blanks.reverse ++ (defaultWord.reverse ++ rest))
      = if 0 < (rest.takeWhile Text.isBlank).length &&
            endsInWord exportWord.reverse (rest.drop (rest.takeWhile Text.isBlank).length) then
          blanks.length + defaultWord.length + (rest.takeWhile Text.isBlank).length
            + exportWord.length
        else 0 := by
  have hlength : blanks.reverse.length ≠ 0 := by simpa using h.1
  have hexport : exportWord.reverse = ['t', 'r', 'o', 'p', 'x', 'e'] := by decide
  have hdefault : defaultWord.reverse = ['t', 'l', 'u', 'a', 'f', 'e', 'd'] := by decide
  have hword : endsInWord exportWord.reverse (defaultWord.reverse ++ rest) = false := by
    rw [endsInWord, hexport, hdefault]
    rfl
  have hstart : defaultWord.reverse.isPrefixOf (defaultWord.reverse ++ rest) = true :=
    List.isPrefixOf_iff_prefix.mpr (List.prefix_append ..)
  rw [exportLength, takeWhile_blanks_default h, List.drop_left, if_neg hlength, List.length_reverse]
  show (if endsInWord exportWord.reverse (defaultWord.reverse ++ rest) = true then _
    else if defaultWord.reverse.isPrefixOf (defaultWord.reverse ++ rest) = true then _ else 0) = _
  rw [hword, hstart, if_neg Bool.false_ne_true, if_pos rfl]
  show (if (_ && endsInWord exportWord.reverse (((defaultWord.reverse ++ rest).drop
    defaultWord.reverse.length).drop _)) = true then _ else 0) = _
  rw [List.drop_left]
  rfl

theorem exportLength_of_phrase {front phrase : Text} (h : ExportPhrase phrase)
    (hfront : StandsAlone front) : exportLength (front ++ phrase).reverse = phrase.length := by
  have hmay := wordMayFollow_reverse.mpr hfront
  cases h with
  | @named blanks h =>
    have hr : (front ++ (exportWord ++ blanks)).reverse
        = blanks.reverse ++ (exportWord.reverse ++ front.reverse) := by simp
    rw [hr, exportLength_export h hmay, List.length_append, Nat.add_comm]
  | @default blanks blanks' h h' =>
    have hr : (front ++ (exportWord ++ (blanks ++ (defaultWord ++ blanks')))).reverse
        = blanks'.reverse ++ (defaultWord.reverse ++
            (blanks.reverse ++ (exportWord.reverse ++ front.reverse))) := by simp
    have hpos : 0 < blanks.length := List.length_pos_iff.mpr h.1
    rw [hr, exportLength_default h', takeWhile_blanks_export h, List.drop_left, endsInWord_append,
      hmay, List.length_reverse, Bool.and_true, if_pos (decide_eq_true hpos)]
    simp only [List.length_append]
    omega

theorem exists_blanks (r : Text) :
    ∃ blanks rest, r = blanks ++ rest ∧ (blanks ++ rest).takeWhile Text.isBlank = blanks ∧
      ∀ ch ∈ blanks, Text.isBlank ch = true := by
  refine ⟨r.takeWhile Text.isBlank, r.dropWhile Text.isBlank, ?_, ?_, ?_⟩
  · exact List.takeWhile_append_dropWhile.symm
  · rw [List.takeWhile_append_dropWhile]
  · exact List.all_eq_true.mp List.all_takeWhile

theorem blanks_reverse {blanks : Text} (hne : blanks.length ≠ 0)
    (h : ∀ ch ∈ blanks, Text.isBlank ch = true) : Blanks blanks.reverse :=
  ⟨by simpa using hne, by simpa using h⟩

theorem endsInExport_of_exportLength_ne_zero {t : Text} (h : exportLength t.reverse ≠ 0) :
    EndsInExport t := by
  obtain ⟨blanks, word, hr, htake, hblanks⟩ := exists_blanks t.reverse
  have ht : t = word.reverse ++ blanks.reverse := by
    rw [← List.reverse_append, ← hr, List.reverse_reverse]
  rw [hr, exportLength] at h
  dsimp only at h
  rw [htake, List.drop_left] at h
  split at h
  · exact absurd rfl h
  rename_i hne
  split at h
  · rename_i hword
    obtain ⟨rest, rfl, hrest⟩ := endsInWord_eq_true hword
    refine ⟨rest.reverse, exportWord ++ blanks.reverse, ?_, .named (blanks_reverse hne hblanks),
      wordMayFollow_reverse.mp (by rwa [List.reverse_reverse])⟩
    rw [ht, List.reverse_append, List.reverse_reverse, List.append_assoc]
    rfl
  split at h
  · rename_i hstart
    obtain ⟨front, rfl⟩ := List.isPrefixOf_iff_prefix.mp hstart
    rw [List.drop_left] at h
    obtain ⟨blanks', word, rfl, htake', hblanks'⟩ := exists_blanks front
    rw [htake', List.drop_left] at h
    split at h
    · rename_i hword
      rw [Bool.and_eq_true, decide_eq_true_eq] at hword
      obtain ⟨rest, rfl, hrest⟩ := endsInWord_eq_true hword.2
      refine ⟨rest.reverse, exportWord ++ (blanks'.reverse ++ (defaultWord ++ blanks.reverse)), ?_,
        .default (blanks_reverse (by omega) hblanks') (blanks_reverse hne hblanks),
        wordMayFollow_reverse.mp (by rwa [List.reverse_reverse])⟩
      rw [ht]
      simp only [List.reverse_append, List.reverse_reverse, List.append_assoc]
      rfl
    · exact absurd rfl h
  · exact absurd rfl h

/-- The text before the `export` at the end of a text, and the `export`: there is just one text that
can be taken for it. -/
theorem splitExport_eq_iff {t front exports : Text} :
    splitExport t = (front, exports) ↔
      t = front ++ exports ∧
        (ExportPhrase exports ∧ StandsAlone front ∨ exports = [] ∧ ¬ EndsInExport t) := by
  rw [splitExport]
  by_cases h : EndsInExport t
  · obtain ⟨front', phrase, rfl, hphrase, hfront⟩ := h
    rw [exportLength_of_phrase hphrase hfront, List.length_append, Nat.add_sub_cancel,
      List.splitAt_eq, List.take_left, List.drop_left, Prod.mk.injEq]
    constructor
    · rintro ⟨rfl, rfl⟩
      exact ⟨rfl, Or.inl ⟨hphrase, hfront⟩⟩
    · rintro ⟨heq, ⟨hphrase', hfront'⟩ | ⟨_, hnot⟩⟩
      · -- both lengths are the one that is found
        have hlength : phrase.length = exports.length := by
          rw [← exportLength_of_phrase hphrase hfront, heq, exportLength_of_phrase hphrase' hfront']
        exact List.append_inj' heq hlength
      · exact absurd ⟨front', phrase, rfl, hphrase, hfront⟩ hnot
  · have hzero : exportLength t.reverse = 0 := by
      by_contra hne
      exact h (endsInExport_of_exportLength_ne_zero hne)
    rw [hzero, Nat.sub_zero, List.splitAt_eq, List.take_length, List.drop_length, Prod.mk.injEq]
    constructor
    · rintro ⟨rfl, rfl⟩
      exact ⟨(List.append_nil _).symm, Or.inr ⟨rfl, h⟩⟩
    · rintro ⟨rfl, ⟨hphrase, hfront⟩ | ⟨rfl, _⟩⟩
      · exact absurd ⟨front, exports, rfl, hphrase, hfront⟩ h
      · exact ⟨List.append_nil _, rfl⟩

/-! ### The call in a function -/

section Function

variable {routine : Text} {c : Component} {span body : Span} {name : Option Name}
  {isAsync isGenerator : Bool} {code : Text}

theorem exists_of_hasBody {n : Node} (h : Shape.hasBody n = true) :
    ∃ span name body isAsync isGenerator,
      n = .functionDeclaration span name (some body) isAsync isGenerator := by
  unfold Shape.hasBody at h
  split at h
  · obtain ⟨body, rfl⟩ := Option.isSome_iff_exists.mp h
    exact ⟨_, _, _, _, _, rfl⟩
  · cases h

theorem intoFunction_eq_ok_iff {out : Text} :
    intoFunction routine c (.functionDeclaration span name (some body) isAsync isGenerator) code
        = .ok out ↔
      ∃ front exports head rest, code = front ++ exports ++ head ++ rest ∧
        splitExport (front ++ exports) = (front, exports) ∧
        Text.byteLength (front ++ exports) = span.start ∧
        Text.byteLength (front ++ exports ++ head) = body.start + 1 ∧
        out = front ++ c.guardDeclaration ++ exports ++ head ++ c.guardedCall routine ++ rest := by
  rw [intoFunction]
  constructor
  · intro h
    dsimp only at h
    split at h
    · cases h
    rename_i horder
    split at h
    · cases h
    rename_i before tail hbefore
    split at h
    · cases h
    rename_i head rest hhead
    obtain ⟨rfl, hstart⟩ := Text.splitAtByte?_eq_some_iff.mp hbefore
    obtain ⟨rfl, hstop⟩ := Text.splitAtByte?_eq_some_iff.mp hhead
    obtain ⟨front, exports, hsplit⟩ : ∃ front exports, splitExport before = (front, exports) :=
      ⟨_, _, rfl⟩
    obtain ⟨rfl, _⟩ := splitExport_eq_iff.mp hsplit
    rw [hsplit] at h
    refine ⟨front, exports, head, rest, by simp, hsplit, hstart, ?_, (Except.ok.inj h).symm⟩
    rw [Text.byteLength_append, hstart, hstop]
    omega
  · rintro ⟨front, exports, head, rest, rfl, hsplit, hstart, hstop, rfl⟩
    have horder : ¬ body.start + 1 < span.start := by
      rw [Text.byteLength_append, hstart] at hstop
      omega
    have hbefore : Text.splitAtByte? span.start (front ++ exports ++ head ++ rest)
        = some (front ++ exports, head ++ rest) :=
      Text.splitAtByte?_eq_some_iff.mpr ⟨by simp, hstart⟩
    have hhead : Text.splitAtByte? (body.start + 1 - span.start) (head ++ rest)
        = some (head, rest) := by
      refine Text.splitAtByte?_eq_some_iff.mpr ⟨rfl, ?_⟩
      rw [Text.byteLength_append, hstart] at hstop
      omega
    dsimp only
    rw [if_neg horder, hbefore]
    dsimp only
    rw [hhead]
    dsimp only
    rw [hsplit]

theorem exists_parts {start stop : Nat} (horder : start ≤ stop)
    (hstart : Text.isBoundary start code = true) (hstop : Text.isBoundary stop code = true) :
    ∃ before head rest, code = before ++ head ++ rest ∧ Text.byteLength before = start ∧
      Text.byteLength (before ++ head) = stop := by
  obtain ⟨⟨before, tail⟩, hbefore⟩ := Option.isSome_iff_exists.mp hstart
  obtain ⟨⟨before', rest⟩, hbefore'⟩ := Option.isSome_iff_exists.mp hstop
  obtain ⟨rfl, hlength⟩ := Text.splitAtByte?_eq_some_iff.mp hbefore
  obtain ⟨heq, hlength'⟩ := Text.splitAtByte?_eq_some_iff.mp hbefore'
  obtain ⟨head, rfl⟩ : ∃ head, before' = before ++ head := by
    rcases List.append_eq_append_iff.mp heq with ⟨w, rfl, _⟩ | ⟨w, hw, _⟩
    · exact ⟨w, rfl⟩
    · rw [hw, Text.byteLength_append] at hlength
      obtain rfl : w = [] := Text.eq_nil_of_byteLength_eq_zero (by omega)
      exact ⟨[], by rw [hw, List.append_nil, List.append_nil]⟩
  exact ⟨before, head, rest, heq, hlength, hlength'⟩

theorem exists_intoFunction_eq_ok_of_parts {before head rest : Text}
    (hcode : code = before ++ head ++ rest) (hstart : Text.byteLength before = span.start)
    (hstop : Text.byteLength (before ++ head) = body.start + 1) :
    ∃ out,
      intoFunction routine c (.functionDeclaration span name (some body) isAsync isGenerator) code
        = .ok out := by
  obtain ⟨front, exports, hsplit⟩ : ∃ front exports, splitExport before = (front, exports) :=
    ⟨_, _, rfl⟩
  obtain ⟨rfl, _⟩ := splitExport_eq_iff.mp hsplit
  exact ⟨_, intoFunction_eq_ok_iff.mpr
    ⟨front, exports, head, rest, hcode, hsplit, hstart, hstop, rfl⟩⟩

theorem exists_intoFunction_eq_ok (h : Module.functionFits code span (some body) = true) :
    ∃ out,
      intoFunction routine c (.functionDeclaration span name (some body) isAsync isGenerator) code
        = .ok out := by
  rw [Module.functionFits, Bool.and_eq_true, Bool.and_eq_true, decide_eq_true_eq] at h
  obtain ⟨hstart, horder, hstop⟩ := h
  obtain ⟨before, head, rest, hcode, hlength, hlength'⟩ :=
    exists_parts (Nat.le_succ_of_le horder) hstart hstop
  exact exists_intoFunction_eq_ok_of_parts hcode hlength hlength'

end Function

end Injection

end ComponentStyles
