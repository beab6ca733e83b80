import ComponentStyles.Proofs.Bundle.Callee
import ComponentStyles.Proofs.Bundle.Resolve
import ComponentStyles.Proofs.Injection.Splice

/-!
# What is emitted into a chunk

The pieces of a chunk are texts without the mark of a placeholder and modules into which a call was
injected (`Emitted`). `Emitted.eq_call`: an injected module is a text that ends in the name of the
routine, a parenthesis and a quote, then the placeholder of its component, then a text that begins
with a quote, and the mark stands nowhere else in it. So a placeholder that occurs in a piece is the
piece's own, occurs once and is called with there (`Emitted.callsOnce`), and resolving puts the
styles in its place and changes nothing else (`Emitted.resolve_text`).

Proof. The injector puts its texts between parts of the code. They hold no mark, because ids and the
name of the routine hold no `#`, and they begin and end with characters that are not in the mark, so
that no mark comes about where they meet the code.
-/

namespace ComponentStyles.Bundle

open Component (Issued placeholderMark placeholderLetters)

/-- A part of a chunk, with the component whose call was injected into it. -/
structure Piece where
  owner : Option Component
  text : Text

namespace Piece

def calls (p : Piece) : Bool := p.owner.isSome

def styled (p : Piece) : Text :=
  match p.owner with
  | some c => Text.replaceAll c.placeholder c.styles p.text
  | none => p.text

end Piece

/-- What a chunk is made of. -/
inductive Emitted (routine : Text) (cs : List Component) : Piece → Prop where
  | plain {t : Text} (h : ¬ placeholderMark <:+: t) : Emitted routine cs ⟨none, t⟩
  | injected {c : Component} {n : Node} {code out : Text} (hc : c ∈ cs)
    (hcode : ¬ placeholderMark <:+: code) (hbody : Shape.hasBody n = true)
    (h : Injection.intoFunction routine c n code = .ok out) : Emitted routine cs ⟨some c, out⟩

def IsRoutineName (t : Text) : Prop := t ≠ [] ∧ ∀ ch ∈ t, isCalleeChar ch = true

/-! ### Texts without the mark -/

theorem markless_of_hash_not_mem {t : Text} (h : '#' ∉ t) : ¬ placeholderMark <:+: t :=
  fun hmark => h (hmark.subset (by decide))

theorem markless_insert {u t v : Text} {q q' : Char} (hq : q ∉ placeholderMark)
    (hq' : q' ∉ placeholderMark) (hu : ¬ placeholderMark <:+: u) (ht : '#' ∉ t)
    (hv : ¬ placeholderMark <:+: v) : ¬ placeholderMark <:+: u ++ (q :: (t ++ q' :: v)) := by
  rw [Text.infix_append_cons_iff hq, Text.infix_append_cons_iff hq']
  rintro (h | h | h)
  · exact hu h
  · exact markless_of_hash_not_mem ht h
  · exact hv h

theorem IsRoutineName.hash_not_mem {routine : Text} (h : IsRoutineName routine) :
    '#' ∉ routine :=
  fun hhash => absurd (h.2 _ hhash) (by decide)

/-! ### The texts of the injector -/

section Injector

variable {length : Nat} {cs : List Component} {c : Component}

theorem hash_not_mem_guardName (hcs : Issued length cs) (hc : c ∈ cs) : '#' ∉ c.guardName := by
  intro h
  rw [Component.guardName, List.mem_cons, List.mem_cons] at h
  rcases h with h | h | h
  · exact absurd h (by decide)
  · exact absurd h (by decide)
  · rcases hcs.mem_letters_of_mem_id hc h with h | h
    · exact absurd h (by decide +kernel)
    · exact absurd h (by decide)

theorem guardDeclaration_eq (hcs : Issued length cs) (hc : c ∈ cs) :
    ∃ t, c.guardDeclaration = ';' :: (t ++ ['\n']) ∧ '#' ∉ t := by
  have hguard := hash_not_mem_guardName hcs hc
  have hopen : ";let ".toList = ';' :: "let ".toList := by decide
  have hclose : " = false;\n".toList = " = false;".toList ++ ['\n'] := by decide
  have hnotin : '#' ∉ "let ".toList ∧ '#' ∉ " = false;".toList := by decide
  refine ⟨"let ".toList ++ c.guardName ++ " = false;".toList, ?_, ?_⟩
  · rw [Component.guardDeclaration_def, hopen, hclose]
    simp only [List.append_assoc, List.cons_append]
  · simp only [List.mem_append, not_or]
    exact ⟨⟨hnotin.1, hguard⟩, hnotin.2⟩

theorem guardedCall_eq (routine : Text) (hcs : Issued length cs) (hc : c ∈ cs) :
    ∃ t t', c.guardedCall routine
        = '\n' :: (t ++ (' ' :: (routine ++ ['(', '"']))) ++ (c.placeholder
          ++ ('"' :: (t' ++ ['\n']))) ∧
      '#' ∉ t ∧ '#' ∉ t' := by
  have hguard := hash_not_mem_guardName hcs hc
  have hid : '#' ∉ c.id := fun h => hguard (List.mem_cons_of_mem _ (List.mem_cons_of_mem _ h))
  have hopen : "\nif (!".toList = '\n' :: "if (!".toList := by decide
  have hblock : ") \x7b\n    ".toList = ") \x7b\n   ".toList ++ [' '] := by decide
  have hparen : "(\"".toList = ['(', '"'] := by decide
  have hcomma : "\",\"".toList = '"' :: ",\"".toList := by decide
  have hclose : " = true;\n\x7d\n".toList = " = true;\n\x7d".toList ++ ['\n'] := by decide
  have hnotin : '#' ∉ "if (!".toList ∧ '#' ∉ ") \x7b\n   ".toList ∧ '#' ∉ ",\"".toList ∧
      '#' ∉ "\");\n    ".toList ∧ '#' ∉ " = true;\n\x7d".toList := by decide
  refine ⟨"if (!".toList ++ c.guardName ++ ") \x7b\n   ".toList,
    ",\"".toList ++ c.id ++ "\");\n    ".toList ++ c.guardName ++ " = true;\n\x7d".toList,
    ?_, ?_, ?_⟩
  · rw [Component.guardedCall_def, hopen, hblock, hparen, hcomma, hclose]
    simp only [List.append_assoc, List.cons_append, List.nil_append]
  · simp only [List.mem_append, not_or]
    exact ⟨⟨hnotin.1, hguard⟩, hnotin.2.1⟩
  · simp only [List.mem_append, not_or]
    exact ⟨⟨⟨⟨hnotin.2.2.1, hid⟩, hnotin.2.2.2.1⟩, hguard⟩, hnotin.2.2.2.2⟩

end Injector

/-! ### The placeholder of a piece -/

/-- What stands before the quote that a placeholder is put behind. -/
def callOpening (routine : Text) : Text := ' ' :: (routine ++ ['('])

section Pieces

variable {length : Nat} {cs : List Component} {c : Component} {routine : Text}

theorem callee?_callOpening (hroutine : IsRoutineName routine) (u rest : Text) :
    callee? (u ++ callOpening routine ++ '"' :: rest)
      (u ++ callOpening routine ++ ['"']).byteLength = some routine := by
  have hparen : '('.utf8Size = 1 := by decide
  have hquote : '"'.utf8Size = 1 := by decide
  have hname := calleeAtEnd_append u (by decide : isCalleeChar ' ' = false) hroutine.2
  refine callee?_eq_some_iff.mpr ⟨u ++ ' ' :: routine, '"' :: rest, ?_, ?_, hname.symm, hroutine.1⟩
  · simp only [callOpening, List.append_assoc, List.cons_append, List.nil_append]
  · simp only [callOpening, Text.byteLength_append, Text.byteLength_cons, Text.byteLength_nil]
    omega

theorem markless_callOpening {u : Text} (hroutine : IsRoutineName routine)
    (hu : ¬ placeholderMark <:+: u) : ¬ placeholderMark <:+: u ++ callOpening routine := by
  rw [callOpening, Text.infix_append_cons_iff (by decide)]
  refine not_or.mpr ⟨hu, markless_of_hash_not_mem ?_⟩
  rw [List.mem_append, not_or]
  exact ⟨hroutine.hash_not_mem, by decide⟩

theorem Emitted.eq_call (hcs : Issued length cs) {t : Text} (h : Emitted routine cs ⟨some c, t⟩) :
    c ∈ cs ∧ ∃ u v, t = u ++ callOpening routine ++ '"' :: (c.placeholder ++ '"' :: v) ∧
      ¬ placeholderMark <:+: u ∧ ¬ placeholderMark <:+: v := by
  obtain _ | ⟨hc, hcode, hbody, hout⟩ := h
  obtain ⟨span, name, body, isAsync, isGenerator, rfl⟩ := Injection.exists_of_hasBody hbody
  obtain ⟨front, exports, head, rest, rfl, _, _, _, rfl⟩ := Injection.intoFunction_eq_ok_iff.mp hout
  obtain ⟨g, hg, hghash⟩ := guardDeclaration_eq hcs hc
  obtain ⟨b, b', hb, hbhash, hbhash'⟩ := guardedCall_eq routine hcs hc
  have hfront : ¬ placeholderMark <:+: front := fun hpart => hcode <| by
    simpa only [List.append_assoc] using hpart.trans (List.prefix_append ..).isInfix
  have hmiddle : ¬ placeholderMark <:+: exports ++ head := fun hpart => hcode <| by
    simpa only [List.append_assoc] using hpart.trans ⟨front, rest, rfl⟩
  have hrest : ¬ placeholderMark <:+: rest :=
    fun hpart => hcode (hpart.trans (List.suffix_append ..).isInfix)
  refine ⟨hc, front ++ (';' :: (g ++ '\n' :: (exports ++ head ++ '\n' :: b))), b' ++ '\n' :: rest,
    ?_, ?_, ?_⟩
  · rw [hg, hb, callOpening]
    simp only [List.append_assoc, List.cons_append, List.nil_append]
  · refine markless_insert (by decide) (by decide) hfront hghash ?_
    rw [Text.infix_append_cons_iff (by decide)]
    exact not_or.mpr ⟨hmiddle, markless_of_hash_not_mem hbhash⟩
  · rw [Text.infix_append_cons_iff (by decide)]
    exact not_or.mpr ⟨markless_of_hash_not_mem hbhash', hrest⟩

/-- Between two texts without the mark, a placeholder in quotes occurs once and no other occurs. -/
theorem eq_of_occurrence (hcs : Issued length cs) (hc : c ∈ cs) {d : Component} (hd : d ∈ cs)
    {u v front rest : Text} (hu : ¬ placeholderMark <:+: u) (hv : ¬ placeholderMark <:+: v)
    (heq : u ++ '"' :: (c.placeholder ++ '"' :: v) = front ++ (d.placeholder ++ rest)) :
    d = c ∧ front = u ++ ['"'] := by
  have hquote : '"' ∉ d.placeholder := hcs.not_mem_placeholder hd (by decide +kernel)
  rcases Text.append_cons_eq_append hquote heq with ⟨r, rfl, _⟩ | ⟨f, rfl, hbehind⟩
  · exact absurd ⟨front, r, List.append_assoc ..⟩ (hcs.not_placeholder_infix hd hu)
  rcases Text.append_cons_eq_append hquote hbehind with ⟨r, hplaceholder, _⟩ | ⟨f', _, rfl⟩
  · obtain rfl : d = c :=
      hcs.eq_of_placeholder_infix hc hd ⟨f, r, by rw [hplaceholder, List.append_assoc]⟩
    refine ⟨rfl, ?_⟩
    -- a placeholder that holds itself does so at its start
    have hlength := congrArg List.length hplaceholder
    simp only [List.length_append] at hlength
    obtain rfl : f = [] := List.length_eq_zero_iff.mp (by omega)
    rfl
  · exact absurd ⟨f', rest, List.append_assoc ..⟩ (hcs.not_placeholder_infix hd hv)

theorem Emitted.of_occurrence (hcs : Issued length cs) (hroutine : IsRoutineName routine)
    {p : Piece} (h : Emitted routine cs p) {d : Component} (hd : d ∈ cs) {front rest : Text}
    (hocc : p.text = front ++ (d.placeholder ++ rest)) :
    p.owner = some d ∧ ∃ u, front = u ++ callOpening routine ++ ['"'] := by
  obtain ⟨_ | c, t⟩ := p
  · obtain ⟨hplain⟩ | _ := h
    obtain rfl : t = _ := hocc
    exact absurd ⟨front, rest, List.append_assoc ..⟩ (hcs.not_placeholder_infix hd hplain)
  · obtain ⟨hc, u, v, rfl, hu, hv⟩ := h.eq_call hcs
    obtain ⟨rfl, rfl⟩ := eq_of_occurrence hcs hc hd (markless_callOpening hroutine hu) hv hocc
    exact ⟨rfl, u, rfl⟩

theorem styled_call (hcs : Issued length cs) (hc : c ∈ cs) {u v : Text}
    (hu : ¬ placeholderMark <:+: u) (hv : ¬ placeholderMark <:+: v) :
    Piece.styled ⟨some c, u ++ '"' :: (c.placeholder ++ '"' :: v)⟩
      = u ++ ['"'] ++ (c.styles ++ '"' :: v) := by
  have hne := hcs.placeholder_ne_nil hc
  have hquote : '"' ∉ c.placeholder := hcs.not_mem_placeholder hc (by decide +kernel)
  show Text.replaceAll c.placeholder c.styles _ = _
  rw [Text.replaceAll_append_cons hquote hne, Text.replaceAll_append_cons hquote hne,
    Text.replaceAll_of_not_infix hne (hcs.not_placeholder_infix hc hu), Text.replaceAll_self hne,
    Text.replaceAll_of_not_infix hne (hcs.not_placeholder_infix hc hv), List.append_assoc _ ['"'],
    List.singleton_append]

/-- The placeholder of the component occurs just once, as the first argument of a call of the
routine, and no other placeholder occurs; styled, the piece has the styles in its place. -/
def CallsOnce (routine : Text) (cs : List Component) (c : Component) (p : Piece) : Prop :=
  (∃ front rest, p.text = front ++ (c.placeholder ++ rest) ∧
    callee? p.text front.byteLength = some routine ∧
    (∀ front' rest', p.text = front' ++ (c.placeholder ++ rest') → front' = front) ∧
    p.styled = front ++ (c.styles ++ rest)) ∧
  ∀ d ∈ cs, d.placeholder <:+: p.text → d = c

theorem Emitted.callsOnce (hcs : Issued length cs) (hroutine : IsRoutineName routine) {p : Piece}
    (h : Emitted routine cs p) {c : Component} (howner : p.owner = some c) :
    CallsOnce routine cs c p := by
  obtain ⟨_, t⟩ := p
  obtain rfl : _ = some c := howner
  obtain ⟨hc, u, v, rfl, hu, hv⟩ := h.eq_call hcs
  have hu := markless_callOpening hroutine hu
  have honly : ∀ d ∈ cs, ∀ front rest,
      u ++ callOpening routine ++ '"' :: (c.placeholder ++ '"' :: v)
        = front ++ (d.placeholder ++ rest) →
      d = c ∧ front = u ++ callOpening routine ++ ['"'] :=
    fun d hd front rest heq => eq_of_occurrence hcs hc hd hu hv heq
  refine ⟨⟨u ++ callOpening routine ++ ['"'], '"' :: v, ?_, ?_, ?_, ?_⟩, ?_⟩
  · rw [List.append_assoc _ ['"'], List.singleton_append]
  · exact callee?_callOpening hroutine u _
  · exact fun front' rest' heq => (honly c hc front' rest' heq).2
  · rw [styled_call hcs hc hu hv]
  · rintro d hd ⟨front, rest, heq⟩
    exact (honly d hd front rest (heq.symm.trans (List.append_assoc ..))).1

theorem Emitted.resolve_text (hcs : Issued length cs)
    (hstyles : ∀ c ∈ cs, ¬ placeholderMark <:+: c.styles) (hroutine : IsRoutineName routine)
    {p : Piece} (h : Emitted routine cs p) : resolve cs p.text = (p.calls, p.styled) := by
  obtain ⟨_ | c, t⟩ := p
  · obtain ⟨hplain⟩ | _ := h
    exact resolve_of_markless hcs hplain
  · obtain ⟨hc, u, v, rfl, hu, hv⟩ := h.eq_call hcs
    have hu := markless_callOpening hroutine hu
    have hquote : '"' ∉ placeholderLetters := by decide +kernel
    rw [resolve_append_cons hcs hquote, resolve_append_cons hcs hquote,
      resolve_of_markless hcs hu, resolve_of_markless hcs hv, resolve_placeholder hcs hstyles hc,
      styled_call hcs hc hu hv, List.append_assoc _ ['"'], List.singleton_append]
    rfl

end Pieces

end ComponentStyles.Bundle
