import ComponentStyles.Bundle
import ComponentStyles.Proofs.Component.Placeholder

/-!
# The callee before a placeholder

A function is called with what stands at an offset when a name and a parenthesis stand two bytes
before it (`callee?_eq_some_iff`). For issued components, `callsRoutine` sees every placeholder that
is called with, although its search passes over overlapping occurrences (`callsRoutine_iff`): what a
placeholder could overlap with holds no parenthesis.
-/

namespace ComponentStyles.Bundle

open Component (Issued)

theorem callee?_eq_some_iff {code name : Text} {offset : Nat} :
    callee? code offset = some name ↔
      ∃ front rest, code = front ++ '(' :: rest ∧ offset = front.byteLength + 2 ∧
        name = calleeAtEnd front ∧ name ≠ [] := by
  rw [callee?, callee]
  by_cases hsmall : offset < 2
  · rw [if_pos hsmall]
    simp only [reduceCtorEq, false_iff]
    rintro ⟨_, _, _, h, _⟩
    omega
  rw [if_neg hsmall]
  by_cases hend : code.byteLength ≤ offset - 2
  · rw [if_pos hend]
    simp only [reduceCtorEq, false_iff]
    rintro ⟨front, rest, rfl, h, _⟩
    rw [Text.byteLength_append, Text.byteLength_cons] at hend
    have := '('.utf8Size_pos
    omega
  rw [if_neg hend]
  constructor
  · intro h
    split at h
    · rename_i name' heq
      split at heq
      · rename_i front rest hsplit
        obtain ⟨rfl, hlength⟩ := Text.splitAtByte?_eq_some_iff.mp hsplit
        obtain rfl := Except.ok.inj heq
        split at h
        · cases h
        · rename_i hname
          obtain rfl := Option.some.inj h
          exact ⟨front, rest, rfl, by omega, rfl, hname⟩
      · obtain rfl := Except.ok.inj heq
        cases h
    · cases h
  · rintro ⟨front, rest, rfl, rfl, rfl, hname⟩
    have hsplit : Text.splitAtByte? (front.byteLength + 2 - 2) (front ++ '(' :: rest)
        = some (front, '(' :: rest) :=
      Text.splitAtByte?_eq_some_iff.mpr ⟨rfl, by omega⟩
    rw [hsplit]
    simp only [if_neg hname]

theorem calleeAtEnd_append (front : Text) {q : Char} {name : Text} (hq : isCalleeChar q = false)
    (hname : ∀ ch ∈ name, isCalleeChar ch = true) : calleeAtEnd (front ++ q :: name) = name := by
  have hreverse : ∀ ch ∈ name.reverse, isCalleeChar ch = true := by simpa using hname
  rw [calleeAtEnd, List.reverse_append, List.reverse_cons, List.append_assoc,
    List.takeWhile_append_of_pos hreverse, List.singleton_append,
    List.takeWhile_cons_of_neg (by simp [hq]), List.append_nil, List.reverse_reverse]

theorem exists_of_callee?_isSome {front rest : Text}
    (h : (callee? (front ++ rest) front.byteLength).isSome = true) :
    ∃ front' ch, front = front' ++ ['(', ch] := by
  obtain ⟨name, hname⟩ := Option.isSome_iff_exists.mp h
  obtain ⟨front', rest', heq, hlength, _⟩ := callee?_eq_some_iff.mp hname
  rcases List.append_eq_append_iff.mp heq with ⟨w, rfl, _⟩ | ⟨w, rfl, hw⟩
  · rw [Text.byteLength_append] at hlength
    omega
  · have hparen : '('.utf8Size = 1 := by decide
    cases w with
    | nil =>
      rw [List.append_nil] at hlength
      omega
    | cons d w =>
      obtain ⟨rfl, _⟩ := List.cons.inj hw
      rw [Text.byteLength_append, Text.byteLength_cons] at hlength
      match w with
      | [] => rw [Text.byteLength_nil] at hlength; omega
      | [ch] => exact ⟨front', ch, rfl⟩
      | ch :: ch' :: w =>
        rw [Text.byteLength_cons, Text.byteLength_cons] at hlength
        have := ch.utf8Size_pos
        have := ch'.utf8Size_pos
        omega

variable {length : Nat} {cs : List Component}

theorem not_overlap_one (hcs : Issued length cs) {c : Component} (hc : c ∈ cs) {ch : Char}
    {tail rest : Text} (hp : c.placeholder = ch :: tail) : ¬ tail <+: c.placeholder ++ rest := by
  rw [hcs.placeholder c hc, Component.placeholderOf_eq] at hp ⊢
  have hfront : Component.placeholderFront
      = '_' :: '_' :: '#' :: "__vite-plugin-styles-inject_".toList := by decide
  rw [hfront, List.cons_append, List.cons_append, List.cons_append] at hp ⊢
  obtain ⟨_, rfl⟩ := List.cons.inj hp
  rw [List.cons_append, List.cons_append, List.cons_prefix_cons, List.cons_prefix_cons]
  rintro ⟨_, h, _⟩
  exact absurd h (by decide)

/-- The search for calls sees all of them. -/
theorem callsRoutine_iff (hcs : Issued length cs) {code : Text} :
    callsRoutine cs code = true ↔
      ∃ c ∈ cs, ∃ front rest, code = front ++ (c.placeholder ++ rest) ∧
        (callee? code front.byteLength).isSome = true := by
  rw [callsRoutine, List.any_eq_true]
  refine exists_congr fun c => and_congr_right fun hc => ?_
  have hne := hcs.placeholder_ne_nil hc
  rw [List.any_eq_true]
  constructor
  · rintro ⟨offset, hoffset, hcall⟩
    obtain ⟨front, rest, rfl, rfl⟩ := Text.exists_append_of_mem_occurrences hne hoffset
    exact ⟨front, rest, rfl, hcall⟩
  · rintro ⟨front, rest, rfl, hcall⟩
    refine ⟨front.byteLength, ?_, hcall⟩
    rcases Text.mem_occurrencesFrom_or_overlap hne front rest 0 with
      h | ⟨front', w, rfl, hw, tail, _, hp, hoverlap⟩
    · rwa [Nat.zero_add] at h
    · exfalso
      obtain ⟨front'', ch, heq⟩ := exists_of_callee?_isSome hcall
      -- the overlapped part is one character, or it holds the parenthesis
      rcases List.eq_nil_or_concat w with rfl | ⟨w, last, rfl⟩
      · exact hw rfl
      · rcases List.eq_nil_or_concat w with rfl | ⟨w, paren, rfl⟩
        · exact not_overlap_one hcs hc hp hoverlap
        · have hparen : paren = '(' := by
            have := congrArg List.reverse heq
            simp at this
            exact this.2.1
          refine hcs.not_mem_placeholder hc (by decide +kernel : '(' ∉ _) ?_
          rw [hp, ← hparen]
          simp

end ComponentStyles.Bundle
