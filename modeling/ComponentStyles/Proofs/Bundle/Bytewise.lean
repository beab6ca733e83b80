import ComponentStyles.Proofs.Bundle.Callee
import ComponentStyles.Proofs.Text.Bytes
import ComponentStyles.Proofs.Tree.OfText

/-!
# The callee byte by byte

The name before an offset can be found without regard to characters: from the parenthesis backwards,
byte by byte, as long as the bytes are those of names, and then by cutting the text where the search
has stopped (`calleeBytewise`). This could go wrong in three ways. `callee_exact`: it goes wrong in
one, when the offset lies too far behind the end; otherwise it gives what `callee` gives, which is the
longest run of such bytes before the parenthesis, if there is one.

Proof. Names and the parenthesis are of ASCII, so a byte tells its character (`tells_callee`), and the
run of bytes is that of the characters (`runStart?_append`).
-/

namespace ComponentStyles.Bundle

open Text (byteLength toBytes Tells)

/-! ### The search -/

/-- Bytes of the name of a function: digits, letters, the underscore and the dollar sign. -/
def isCalleeByte (b : UInt8) : Bool :=
  (0x30 ≤ b && b ≤ 0x39) || (0x41 ≤ b && b ≤ 0x5A) || (0x61 ≤ b && b ≤ 0x7A) || b == 0x5F ||
    b == 0x24

/-- Where the run of such bytes before an index starts; none if a byte is asked for that is not
there. -/
def runStart? (bytes : List UInt8) : Nat → Option Nat
  | 0 => some 0
  | i + 1 =>
    match bytes[i]? with
    | none => none
    | some b => if isCalleeByte b then runStart? bytes i else some (i + 1)

inductive SearchFault where
  /-- The offset is too far behind the end of the text. -/
  | behindEnd
  /-- The search leaves the text. -/
  | outside
  /-- The search stops inside a character. -/
  | insideCharacter
  deriving DecidableEq, Repr

/-- The name before the parenthesis two bytes before an offset, found byte by byte. -/
def calleeBytewise (code : Text) (offset : Nat) : Except SearchFault (Option Text) :=
  if offset < 2 then .ok none
  else
    match (toBytes code)[offset - 2]? with
    | none => .error .behindEnd
    | some b =>
      if b = 0x28 then
        match runStart? (toBytes code) (offset - 2) with
        | none => .error .outside
        | some start =>
          if start = offset - 2 then .ok none
          else
            match Text.slice? start (offset - 2) code with
            | none => .error .insideCharacter
            | some name => .ok (some name)
      else .ok none

/-- The bytes from one index to another are those of names, there is at least one of them, and there
is none before them. -/
structure CalleeRun (bytes : List UInt8) (start stop : Nat) : Prop where
  start_lt_stop : start < stop
  inside : ∀ i, start ≤ i → i < stop → ∃ b, bytes[i]? = some b ∧ isCalleeByte b = true
  maximal : ∀ i b, i + 1 = start → bytes[i]? = some b → isCalleeByte b = false

/-! ### Bytes of names -/

theorem tells_callee : Tells isCalleeByte isCalleeChar := by
  refine Text.tells_of_ascii (fun b hb => ?_) (fun c hc => ?_) fun c hc => ?_
  · have hall : ∀ n < 256, isCalleeByte (UInt8.ofNat n) = true → n < 128 := by
      decide +kernel
    exact hall b.toNat b.toNat_lt (by rwa [UInt8.ofNat_toNat])
  · have hcases : c.isAlphanum = true ∨ c = '_' ∨ c = '$' := by
      simpa only [isCalleeChar, Bool.or_eq_true, decide_eq_true_eq, or_assoc] using hc
    rcases hcases with h | rfl | rfl
    · exact Text.toNat_lt_of_isAlphanum h
    · decide
    · decide
  · have hall : ∀ n < 128, isCalleeByte (UInt8.ofNat n) = isCalleeChar (Char.ofNat n) := by
      decide +kernel
    rw [hall c.toNat hc, Char.ofNat_toNat]

/-! ### The run of bytes -/

variable {bytes : List UInt8} {start stop : Nat}

theorem runStart?_of_run (hle : start ≤ stop)
    (hinside : ∀ i, start ≤ i → i < stop → ∃ b, bytes[i]? = some b ∧ isCalleeByte b = true)
    (hmaximal : ∀ i, i + 1 = start → ∃ b, bytes[i]? = some b ∧ isCalleeByte b = false) :
    runStart? bytes stop = some start := by
  induction stop with
  | zero => rw [Nat.le_zero.mp hle, runStart?]
  | succ i ih =>
    rcases Nat.lt_or_eq_of_le hle with hlt | rfl
    · obtain ⟨b, hb, hcallee⟩ := hinside i (Nat.le_of_lt_succ hlt) (Nat.lt_succ_self i)
      rw [runStart?, hb]
      dsimp only
      rw [if_pos hcallee]
      exact ih (Nat.le_of_lt_succ hlt) fun j hstart hj => hinside j hstart (Nat.lt_succ_of_lt hj)
    · obtain ⟨b, hb, hcallee⟩ := hmaximal i rfl
      rw [runStart?, hb]
      dsimp only
      rw [hcallee, if_neg Bool.false_ne_true]

theorem of_runStart? (h : runStart? bytes stop = some start) :
    start ≤ stop ∧
      (∀ i, start ≤ i → i < stop → ∃ b, bytes[i]? = some b ∧ isCalleeByte b = true) ∧
      ∀ i b, i + 1 = start → bytes[i]? = some b → isCalleeByte b = false := by
  induction stop with
  | zero =>
    obtain rfl := Option.some.inj h
    exact ⟨Nat.le_refl 0, fun i _ hi => absurd hi (Nat.not_lt_zero i), fun i _ hi => by cases hi⟩
  | succ stop ih =>
    rw [runStart?] at h
    split at h
    · cases h
    rename_i b hb
    split at h
    · rename_i hcallee
      obtain ⟨hle, hinside, hmaximal⟩ := ih h
      refine ⟨Nat.le_succ_of_le hle, fun i hstart hi => ?_, hmaximal⟩
      rcases Nat.lt_or_eq_of_le (Nat.le_of_lt_succ hi) with hi | rfl
      · exact hinside i hstart hi
      · exact ⟨b, hb, hcallee⟩
    · rename_i hcallee
      obtain rfl := Option.some.inj h
      refine ⟨Nat.le_refl _, fun i hstart hi => absurd hi (Nat.not_lt.mpr hstart), fun i b' hi hb' => ?_⟩
      obtain rfl := Nat.succ.inj hi
      rw [hb] at hb'
      obtain rfl := Option.some.inj hb'
      exact Bool.eq_false_iff.mpr hcallee

theorem calleeRun_iff (hstop : stop ≤ bytes.length) :
    CalleeRun bytes start stop ↔ runStart? bytes stop = some start ∧ start < stop := by
  constructor
  · intro h
    refine ⟨runStart?_of_run (Nat.le_of_lt h.start_lt_stop) h.inside fun i hi => ?_, h.start_lt_stop⟩
    have hlt : i < bytes.length := by
      have := h.start_lt_stop
      omega
    exact ⟨bytes[i], List.getElem?_eq_getElem hlt, h.maximal i _ hi (List.getElem?_eq_getElem hlt)⟩
  · rintro ⟨h, hlt⟩
    obtain ⟨_, hinside, hmaximal⟩ := of_runStart? h
    exact ⟨hlt, hinside, hmaximal⟩

theorem exists_calleeAtEnd (front : Text) :
    ∃ before, front = before ++ calleeAtEnd front ∧
      (∀ c ∈ calleeAtEnd front, isCalleeChar c = true) ∧
      ∀ before' c, before = before' ++ [c] → isCalleeChar c = false := by
  refine ⟨(front.reverse.dropWhile isCalleeChar).reverse, ?_, fun c hc => ?_, fun before' c h => ?_⟩
  · rw [calleeAtEnd, ← List.reverse_append, List.takeWhile_append_dropWhile, List.reverse_reverse]
  · rw [calleeAtEnd, List.mem_reverse] at hc
    exact List.all_eq_true.mp List.all_takeWhile c hc
  · have hhead := List.head?_dropWhile_not isCalleeChar front.reverse
    rw [List.reverse_eq_iff.mp h, List.reverse_append] at hhead
    exact hhead

/-- The bytes before a parenthesis go back to the start of the name that stands there. -/
theorem runStart?_append {before name : Text} (hname : ∀ c ∈ name, isCalleeChar c = true)
    (hbefore : ∀ before' c, before = before' ++ [c] → isCalleeChar c = false) (rest : Text) :
    runStart? (toBytes (before ++ (name ++ rest))) (byteLength (before ++ name))
      = some (byteLength before) := by
  rw [Text.byteLength_append]
  refine runStart?_of_run (Nat.le_add_right _ _) (fun i hstart hstop => ?_) fun i hi => ?_
  · obtain ⟨k, rfl⟩ := Nat.exists_eq_add_of_le hstart
    exact tells_callee.exists_getElem? hname before rest (Nat.lt_of_add_lt_add_left hstop)
  · -- the byte before the name is the last one of a character that is in no name
    rcases List.eq_nil_or_concat before with rfl | ⟨before', c, rfl⟩
    · cases hi
    · have hsize := c.utf8Size_pos
      rw [List.concat_eq_append, Text.byteLength_append, Text.byteLength_cons, Text.byteLength_nil] at hi
      obtain rfl : i = byteLength before' + (c.utf8Size - 1) := by omega
      have hk : c.utf8Size - 1 < (String.utf8EncodeChar c).length := by
        rw [String.length_utf8EncodeChar]
        omega
      refine ⟨(String.utf8EncodeChar c)[c.utf8Size - 1], ?_, ?_⟩
      · rw [List.concat_eq_append, List.append_assoc, List.singleton_append,
          Text.getElem?_toBytes_append_cons before' _ (by omega), List.getElem?_eq_getElem hk]
      · rw [tells_callee c _ (List.getElem_mem hk)]
        exact hbefore before' c (List.concat_eq_append ..)

/-! ### All offsets -/

variable {code : Text} {offset : Nat}

theorem getElem?_paren_iff :
    (toBytes code)[stop]? = some 0x28 ↔
      ∃ front rest, code = front ++ '(' :: rest ∧ byteLength front = stop := by
  have hparen : '('.toNat < 128 := by decide
  exact Text.getElem?_toBytes_eq_some_iff hparen

theorem stop_cases (code : Text) (stop : Nat) :
    byteLength code ≤ stop ∨ (∃ b, (toBytes code)[stop]? = some b ∧ b ≠ 0x28) ∨
      ∃ front rest, code = front ++ '(' :: rest ∧ byteLength front = stop := by
  rcases Nat.lt_or_ge stop (byteLength code) with hstop | hend
  · rw [← Text.length_toBytes] at hstop
    by_cases hb : (toBytes code)[stop] = 0x28
    · refine Or.inr (Or.inr (getElem?_paren_iff.mp ?_))
      rw [List.getElem?_eq_getElem hstop, hb]
    · exact Or.inr (Or.inl ⟨_, List.getElem?_eq_getElem hstop, hb⟩)
  · exact Or.inl hend

theorem both_of_lt_two (h : offset < 2) :
    callee code offset = .ok none ∧ calleeBytewise code offset = .ok none := by
  rw [callee, if_pos h, calleeBytewise, if_pos h]
  exact ⟨rfl, rfl⟩

theorem both_of_end (h : byteLength code ≤ stop) :
    callee code (stop + 2) = .error .behindEnd ∧
      calleeBytewise code (stop + 2) = .error .behindEnd := by
  have hlarge : ¬ stop + 2 < 2 := by omega
  have hnone : (toBytes code)[stop]? = none := by
    rw [List.getElem?_eq_none_iff, Text.length_toBytes]
    exact h
  rw [callee, if_neg hlarge, Nat.add_sub_cancel, if_pos h, calleeBytewise, if_neg hlarge,
    Nat.add_sub_cancel, hnone]
  exact ⟨rfl, rfl⟩

theorem both_of_ne_paren {b : UInt8} (hb : (toBytes code)[stop]? = some b) (hne : b ≠ 0x28) :
    callee code (stop + 2) = .ok none ∧ calleeBytewise code (stop + 2) = .ok none := by
  have hlarge : ¬ stop + 2 < 2 := by omega
  have hstop : ¬ byteLength code ≤ stop := by
    rw [← Text.length_toBytes, Nat.not_le]
    exact (List.getElem?_eq_some_iff.mp hb).1
  constructor
  · rw [callee, if_neg hlarge, Nat.add_sub_cancel, if_neg hstop]
    split
    · rename_i front rest hsplit
      obtain ⟨rfl, hlength⟩ := Text.splitAtByte?_eq_some_iff.mp hsplit
      have hparen := getElem?_paren_iff.mpr ⟨front, rest, rfl, hlength⟩
      rw [hb] at hparen
      exact absurd (Option.some.inj hparen) hne
    · rfl
  · rw [calleeBytewise, if_neg hlarge, Nat.add_sub_cancel, hb]
    exact if_neg hne

theorem both_of_paren (front rest : Text) :
    callee (front ++ '(' :: rest) (byteLength front + 2)
        = .ok (if calleeAtEnd front = [] then none else some (calleeAtEnd front)) ∧
      calleeBytewise (front ++ '(' :: rest) (byteLength front + 2)
        = .ok (if calleeAtEnd front = [] then none else some (calleeAtEnd front)) := by
  have hlarge : ¬ byteLength front + 2 < 2 := by omega
  constructor
  · have hstop : ¬ byteLength (front ++ '(' :: rest) ≤ byteLength front := by
      have := '('.utf8Size_pos
      rw [Text.byteLength_append, Text.byteLength_cons]
      omega
    have hsplit : Text.splitAtByte? (byteLength front) (front ++ '(' :: rest)
        = some (front, '(' :: rest) := Text.splitAtByte?_eq_some_iff.mpr ⟨rfl, rfl⟩
    rw [callee, if_neg hlarge, Nat.add_sub_cancel, if_neg hstop, hsplit]
    rfl
  · obtain ⟨before, hfront, hname, hbefore⟩ := exists_calleeAtEnd front
    have hparen : (toBytes (front ++ '(' :: rest))[byteLength front]? = some 0x28 :=
      getElem?_paren_iff.mpr ⟨front, rest, rfl, rfl⟩
    have hrun := runStart?_append hname hbefore ('(' :: rest)
    rw [← List.append_assoc, ← hfront] at hrun
    have hlength : byteLength front = byteLength before + byteLength (calleeAtEnd front) := by
      rw [← Text.byteLength_append, ← hfront]
    rw [calleeBytewise, if_neg hlarge, Nat.add_sub_cancel, hparen]
    dsimp only
    rw [if_pos rfl, hrun]
    dsimp only
    by_cases hnil : calleeAtEnd front = []
    · rw [hnil, Text.byteLength_nil, Nat.add_zero] at hlength
      rw [if_pos hlength.symm, if_pos hnil]
    · have hslice : Text.slice? (byteLength before) (byteLength front) (front ++ '(' :: rest)
          = some (calleeAtEnd front) :=
        Text.slice?_eq_some_iff.mpr ⟨before, '(' :: rest, by rw [← hfront], rfl, by rw [← hfront]⟩
      have hne : byteLength before ≠ byteLength front := by
        intro heq
        exact hnil (Text.eq_nil_of_byteLength_eq_zero (by omega))
      rw [if_neg hne, hslice, if_neg hnil]

theorem exists_start (front rest : Text) :
    ∃ first, Text.slice? first (byteLength front) (front ++ '(' :: rest) = some (calleeAtEnd front) ∧
      ∀ start, CalleeRun (toBytes (front ++ '(' :: rest)) start (byteLength front) ↔
        start = first ∧ calleeAtEnd front ≠ [] := by
  obtain ⟨before, hfront, hname, hbefore⟩ := exists_calleeAtEnd front
  have hrun := runStart?_append hname hbefore ('(' :: rest)
  rw [← List.append_assoc, ← hfront] at hrun
  have hlength : byteLength front = byteLength before + byteLength (calleeAtEnd front) := by
    rw [← Text.byteLength_append, ← hfront]
  have hstop : byteLength front ≤ (toBytes (front ++ '(' :: rest)).length := by
    rw [Text.length_toBytes, Text.byteLength_append]
    exact Nat.le_add_right _ _
  refine ⟨byteLength before, ?_, fun start => ?_⟩
  · exact Text.slice?_eq_some_iff.mpr
      ⟨before, '(' :: rest, by rw [← hfront], rfl, by rw [← hfront]⟩
  rw [calleeRun_iff hstop, hrun, Option.some.injEq]
  constructor
  · rintro ⟨rfl, hlt⟩
    refine ⟨rfl, fun hnil => ?_⟩
    rw [hnil, Text.byteLength_nil] at hlength
    omega
  · rintro ⟨rfl, hne⟩
    refine ⟨rfl, ?_⟩
    by_contra hle
    exact hne (Text.eq_nil_of_byteLength_eq_zero (by omega))

theorem calleeBytewise_eq (code : Text) (stop : Nat) :
    calleeBytewise code (stop + 2) = (callee code (stop + 2)).mapError fun _ => .behindEnd := by
  rcases stop_cases code stop with hend | ⟨b, hb, hne⟩ | ⟨front, rest, rfl, rfl⟩
  · rw [(both_of_end hend).1, (both_of_end hend).2]
    rfl
  · rw [(both_of_ne_paren hb hne).1, (both_of_ne_paren hb hne).2]
    rfl
  · rw [(both_of_paren front rest).1, (both_of_paren front rest).2]
    rfl

theorem callee_eq_error_iff :
    callee code (stop + 2) = .error .behindEnd ↔ byteLength code ≤ stop := by
  rcases stop_cases code stop with hend | ⟨b, hb, hne⟩ | ⟨front, rest, rfl, rfl⟩
  · exact iff_of_true (both_of_end hend).1 hend
  · rw [(both_of_ne_paren hb hne).1, ← Text.length_toBytes]
    exact iff_of_false nofun (Nat.not_le.mpr (List.getElem?_eq_some_iff.mp hb).1)
  · have := '('.utf8Size_pos
    rw [(both_of_paren front rest).1, Text.byteLength_append, Text.byteLength_cons]
    exact iff_of_false nofun (by omega)

theorem callee_eq_some_iff {name : Text} :
    callee code (stop + 2) = .ok (some name) ↔
      (toBytes code)[stop]? = some 0x28 ∧
        ∃ start, CalleeRun (toBytes code) start stop ∧ Text.slice? start stop code = some name := by
  rcases stop_cases code stop with hend | ⟨b, hb, hne⟩ | ⟨front, rest, rfl, rfl⟩
  · have hnone : (toBytes code)[stop]? = none := by
      rwa [List.getElem?_eq_none_iff, Text.length_toBytes]
    rw [(both_of_end hend).1, hnone]
    exact iff_of_false nofun nofun
  · rw [(both_of_ne_paren hb hne).1, hb]
    exact iff_of_false nofun fun h => hne (Option.some.inj h.1)
  · obtain ⟨first, hslice, hrun⟩ := exists_start front rest
    rw [(both_of_paren front rest).1]
    constructor
    · intro h
      obtain ⟨hne, hname⟩ := Option.ite_none_left_eq_some.mp (Except.ok.inj h)
      rw [hname] at hslice
      exact ⟨getElem?_paren_iff.mpr ⟨front, rest, rfl, rfl⟩, first, (hrun first).mpr ⟨rfl, hne⟩, hslice⟩
    · rintro ⟨_, start, h, hpart⟩
      obtain ⟨rfl, hne⟩ := (hrun start).mp h
      rw [if_neg hne, ← hslice, hpart]

theorem callee_eq_none_iff :
    callee code (stop + 2) = .ok none ↔
      ∃ b, (toBytes code)[stop]? = some b ∧
        ¬ (b = 0x28 ∧ ∃ start, CalleeRun (toBytes code) start stop) := by
  rcases stop_cases code stop with hend | ⟨b, hb, hne⟩ | ⟨front, rest, rfl, rfl⟩
  · have hnone : (toBytes code)[stop]? = none := by
      rwa [List.getElem?_eq_none_iff, Text.length_toBytes]
    rw [(both_of_end hend).1, hnone]
    exact iff_of_false nofun nofun
  · exact iff_of_true (both_of_ne_paren hb hne).1 ⟨b, hb, fun h => hne h.1⟩
  · obtain ⟨first, _, hrun⟩ := exists_start front rest
    rw [(both_of_paren front rest).1, getElem?_paren_iff.mpr ⟨front, rest, rfl, rfl⟩]
    constructor
    · intro h
      refine ⟨0x28, rfl, ?_⟩
      rintro ⟨_, start, hstart⟩
      rw [if_neg ((hrun start).mp hstart).2] at h
      cases h
    · rintro ⟨b, hb, hnot⟩
      obtain rfl := Option.some.inj hb
      refine congrArg Except.ok (if_pos ?_)
      by_contra hne
      exact hnot ⟨rfl, first, (hrun first).mpr ⟨rfl, hne⟩⟩

/-- For any text and offset: the search byte by byte goes wrong only if the offset is too far behind the
end, and agrees with `callee`. The name is the run of bytes of names that ends at a parenthesis two
bytes before the offset, with as many bytes as there are and at least one, and it starts and ends
between characters. In all other cases there is none. -/
theorem callee_exact (code : Text) (offset : Nat) :
    calleeBytewise code offset = (callee code offset).mapError (fun _ => .behindEnd) ∧
    (callee code offset = .error .behindEnd ↔ 2 ≤ offset ∧ (toBytes code).length ≤ offset - 2) ∧
    (∀ name, callee code offset = .ok (some name) ↔
      2 ≤ offset ∧ (toBytes code)[offset - 2]? = some 0x28 ∧
        ∃ start, CalleeRun (toBytes code) start (offset - 2) ∧
          Text.slice? start (offset - 2) code = some name) ∧
    (callee code offset = .ok none ↔
      offset < 2 ∨ ∃ b, (toBytes code)[offset - 2]? = some b ∧
        ¬ (b = 0x28 ∧ ∃ start, CalleeRun (toBytes code) start (offset - 2))) := by
  rcases Nat.lt_or_ge offset 2 with hsmall | hlarge
  · have hno : ¬ 2 ≤ offset := Nat.not_le.mpr hsmall
    rw [(both_of_lt_two hsmall).1, (both_of_lt_two hsmall).2]
    refine ⟨rfl, iff_of_false nofun fun h => hno h.1, fun name => ?_,
      iff_of_true rfl (Or.inl hsmall)⟩
    exact iff_of_false nofun fun h => hno h.1
  · obtain ⟨stop, rfl⟩ := Nat.exists_eq_add_of_le' hlarge
    rw [Nat.add_sub_cancel, Text.length_toBytes, and_iff_right hlarge]
    refine ⟨calleeBytewise_eq code stop, callee_eq_error_iff, fun name => ?_, ?_⟩
    · exact callee_eq_some_iff.trans (and_iff_right hlarge).symm
    · rw [callee_eq_none_iff, or_iff_right (Nat.not_lt.mpr hlarge)]

/-- A name behind a character of two bytes, and an offset inside that character. -/
example : callee "\u00e9_f(\"P".toList 6 = .ok (some "_f".toList) ∧
    callee "\u00e9_f(\"P".toList 3 = .ok none := by
  decide

end ComponentStyles.Bundle
