import ComponentStyles.Proofs.Injection.Boundary
import ComponentStyles.Proofs.Shape.Process

/-!
# Offsets that fit a text

The injector is given byte offsets and a text, which need not have anything to do with each other.
`splice_outcome` says what comes of any of them: offsets that are out of order, behind the end or
inside a character are refused, and nothing else is; otherwise the text comes back whole, in parts
between which the guard and the call stand.

Proof. Two offsets are in order and between characters exactly if they cut the text in three parts
(`not_misplaced_iff`). A function whose parts these are gets the call, with the parts named by
`intoFunction_eq_ok_iff`; a range of bytes is the middle part.
-/

namespace ComponentStyles.Injection

/-- Two offsets do not mark a part of a text: they are out of order, behind its end or inside one of
its characters. -/
def Misplaced (code : Text) (start stop : Nat) : Prop :=
  stop < start ∨ Text.byteLength code < stop ∨ Text.isBoundary start code = false ∨
    Text.isBoundary stop code = false

instance (code : Text) (start stop : Nat) : Decidable (Misplaced code start stop) :=
  inferInstanceAs (Decidable (_ ∨ _))

variable {routine : Text} {c : Component} {code : Text} {start stop : Nat} {fault : Fault}

theorem isBoundary_append (front rest : Text) :
    Text.isBoundary (Text.byteLength front) (front ++ rest) = true := by
  rw [Text.isBoundary, Text.splitAtByte?_eq_some_iff.mpr ⟨rfl, rfl⟩]
  rfl

theorem not_misplaced_iff :
    ¬ Misplaced code start stop ↔
      ∃ before head rest, code = before ++ head ++ rest ∧ Text.byteLength before = start ∧
        Text.byteLength (before ++ head) = stop := by
  constructor
  · intro h
    obtain ⟨horder, _, hstart, hstop⟩ : start ≤ stop ∧ stop ≤ Text.byteLength code ∧
        Text.isBoundary start code = true ∧ Text.isBoundary stop code = true := by
      simpa only [Misplaced, not_or, Nat.not_lt, Bool.not_eq_false] using h
    exact exists_parts horder hstart hstop
  · rintro ⟨before, head, rest, rfl, rfl, rfl⟩
    have hstart := isBoundary_append before (head ++ rest)
    rw [← List.append_assoc] at hstart
    rintro (horder | hend | hfalse | hfalse)
    · rw [Text.byteLength_append] at horder
      omega
    · rw [Text.byteLength_append _ rest] at hend
      omega
    · rw [hstart] at hfalse
      cases hfalse
    · rw [isBoundary_append (before ++ head) rest] at hfalse
      cases hfalse

/-! ### A function -/

section Function

variable {span body : Span} {name : Option Name} {isAsync isGenerator : Bool}

theorem eq_badRange_of_intoFunction
    (h : intoFunction routine c (.functionDeclaration span name (some body) isAsync isGenerator) code
      = .error fault) :
    fault = .badRange span.start (body.start + 1) code.byteLength := by
  rw [intoFunction] at h
  dsimp only at h
  split at h
  · exact (Except.error.inj h).symm
  split at h
  · exact (Except.error.inj h).symm
  split at h
  · exact (Except.error.inj h).symm
  · cases h

theorem intoFunction_eq_error_iff :
    intoFunction routine c (.functionDeclaration span name (some body) isAsync isGenerator) code
        = .error fault ↔
      Misplaced code span.start (body.start + 1) ∧
        fault = .badRange span.start (body.start + 1) code.byteLength := by
  constructor
  · intro h
    refine ⟨?_, eq_badRange_of_intoFunction h⟩
    by_contra hplaced
    obtain ⟨before, head, rest, hcode, hstart, hstop⟩ := not_misplaced_iff.mp hplaced
    obtain ⟨out, hout⟩ := exists_intoFunction_eq_ok_of_parts hcode hstart hstop
    rw [hout] at h
    cases h
  · rintro ⟨hmisplaced, rfl⟩
    cases hout : intoFunction routine c
        (.functionDeclaration span name (some body) isAsync isGenerator) code with
    | error fault => rw [eq_badRange_of_intoFunction hout]
    | ok out =>
      obtain ⟨front, exports, head, rest, hcode, _, hstart, hstop, _⟩ :=
        intoFunction_eq_ok_iff.mp hout
      exact absurd hmisplaced (not_misplaced_iff.mpr ⟨_, head, rest, hcode, hstart, hstop⟩)

theorem intoFunction_of_not_misplaced (routine : Text) (c : Component)
    (h : ¬ Misplaced code span.start (body.start + 1)) :
    ∃ place front middle rest, place ≤ span.start ∧ ExportRecognised code place span.start ∧
      Text.slice? 0 place code = some front ∧
      Text.slice? place (body.start + 1) code = some middle ∧
      Text.slice? (body.start + 1) code.byteLength code = some rest ∧
      intoFunction routine c (.functionDeclaration span name (some body) isAsync isGenerator) code
        = .ok (front ++ c.guardDeclaration ++ middle ++ c.guardedCall routine ++ rest) := by
  obtain ⟨before, head, rest, hcode, hstart, hstop⟩ := not_misplaced_iff.mp h
  obtain ⟨out, hout⟩ : ∃ out, intoFunction routine c
      (.functionDeclaration span name (some body) isAsync isGenerator) code = .ok out :=
    exists_intoFunction_eq_ok_of_parts hcode hstart hstop
  obtain ⟨front, exports, head, rest, rfl, hsplit, hstart, hstop, rfl⟩ :=
    intoFunction_eq_ok_iff.mp hout
  refine ⟨Text.byteLength front, front, exports ++ head, rest, ?_, ?_, ?_, ?_, ?_, ?_⟩
  · rw [← hstart, Text.byteLength_append]
    exact Nat.le_add_right _ _
  · rw [← hstart, List.append_assoc]
    exact exportRecognised_of_splitExport hsplit (head ++ rest)
  · exact Text.slice?_eq_some_iff.mpr
      ⟨[], exports ++ head ++ rest, by simp only [List.nil_append, List.append_assoc], rfl, rfl⟩
  · exact Text.slice?_eq_some_iff.mpr
      ⟨front, rest, by simp only [List.append_assoc], rfl, by rw [← hstop, List.append_assoc]⟩
  · exact Text.slice?_eq_some_iff.mpr
      ⟨front ++ exports ++ head, [], by rw [List.append_nil], hstop, rfl⟩
  · rw [hout]
    simp only [List.append_assoc]

end Function

/-! ### A range -/

theorem intoRange_of_not_misplaced (routine : Text) (c : Component)
    (h : ¬ Misplaced code start stop) :
    ∃ front rest, Text.slice? 0 start code = some front ∧
      Text.slice? stop code.byteLength code = some rest ∧
      intoRange routine c start stop code
        = .ok (front ++ c.guardDeclaration ++ c.guardedCall routine ++ rest) := by
  obtain ⟨front, middle, rest, rfl, rfl, rfl⟩ := not_misplaced_iff.mp h
  refine ⟨front, rest, ?_, ?_, intoRange_append routine c front middle rest⟩
  · exact Text.slice?_eq_some_iff.mpr ⟨[], middle ++ rest, by simp, rfl, rfl⟩
  · exact Text.slice?_eq_some_iff.mpr ⟨front ++ middle, [], by simp, rfl, by simp⟩

theorem intoRange_of_misplaced (routine : Text) (c : Component) (h : Misplaced code start stop) :
    intoRange routine c start stop code = .error (.badRange start stop code.byteLength) := by
  rw [intoRange]
  split
  · rename_i hstart hstop
    refine if_neg fun horder => not_misplaced_iff.mpr (exists_parts horder ?_ ?_) h
    · rw [Text.isBoundary, hstart]
      rfl
    · rw [Text.isBoundary, hstop]
      rfl
  · rfl

theorem intoRange_eq_error_iff :
    intoRange routine c start stop code = .error fault ↔
      Misplaced code start stop ∧ fault = .badRange start stop code.byteLength := by
  by_cases h : Misplaced code start stop
  · rw [intoRange_of_misplaced routine c h, Except.error.injEq]
    exact ⟨fun heq => ⟨h, heq.symm⟩, fun heq => heq.2.symm⟩
  · obtain ⟨front, rest, _, _, hout⟩ := intoRange_of_not_misplaced routine c h
    rw [hout]
    exact iff_of_false nofun fun hmisplaced => h hmisplaced.1

/-! ### Any offsets -/

theorem intoFunction_of_not_hasBody {n : Node} (h : Shape.hasBody n = false) :
    intoFunction routine c n code = .ok code := by
  unfold intoFunction
  split
  · cases h
  · rfl

/-- Whatever the offsets, the text is refused exactly if they do not mark a part of it, with the
fault that names them; otherwise it is kept in parts, with the guard before what is taken for the
`export` of a function, or in the place of a range. -/
theorem splice_outcome (routine : Text) (c : Component) (code : Text) :
    (∀ (span body : Span) (name : Option Name) (isAsync isGenerator : Bool),
      let n := Node.functionDeclaration span name (some body) isAsync isGenerator
      let stop := body.start + 1
      (∀ fault, intoFunction routine c n code = .error fault ↔
        Misplaced code span.start stop ∧ fault = .badRange span.start stop code.byteLength) ∧
      (¬ Misplaced code span.start stop → ∃ place front middle rest,
        place ≤ span.start ∧ ExportRecognised code place span.start ∧
        Text.slice? 0 place code = some front ∧ Text.slice? place stop code = some middle ∧
        Text.slice? stop code.byteLength code = some rest ∧
        intoFunction routine c n code
          = .ok (front ++ c.guardDeclaration ++ middle ++ c.guardedCall routine ++ rest))) ∧
    (∀ n, Shape.hasBody n = false → intoFunction routine c n code = .ok code) ∧
    ∀ start stop,
      (∀ fault, intoRange routine c start stop code = .error fault ↔
        Misplaced code start stop ∧ fault = .badRange start stop code.byteLength) ∧
      (¬ Misplaced code start stop → ∃ front rest,
        Text.slice? 0 start code = some front ∧ Text.slice? stop code.byteLength code = some rest ∧
        intoRange routine c start stop code
          = .ok (front ++ c.guardDeclaration ++ c.guardedCall routine ++ rest)) := by
  refine ⟨?_, fun n => intoFunction_of_not_hasBody, ?_⟩
  · intro span body name isAsync isGenerator
    exact ⟨fun fault => intoFunction_eq_error_iff, intoFunction_of_not_misplaced routine c⟩
  · intro start stop
    exact ⟨fun fault => intoRange_eq_error_iff, intoRange_of_not_misplaced routine c⟩

theorem splice_outcome_accented :
    let code : Text := "\u00e9 export function f() \x7b\x7d".toList
    let c := Component.fresh "__vpsi_ab".toList "/a.js".toList
    let n := Node.functionDeclaration ⟨10, 25⟩ none (some ⟨23, 25⟩) false false
    (∃ place front middle rest, place ≤ 10 ∧ ExportRecognised code place 10 ∧
      Text.slice? 0 place code = some front ∧ Text.slice? place 24 code = some middle ∧
      Text.slice? 24 25 code = some rest ∧ intoFunction ['g'] c n code
        = .ok (front ++ c.guardDeclaration ++ middle ++ c.guardedCall ['g'] ++ rest)) ∧
      intoFunction ['g'] c (.identifier ⟨0, 2⟩ "\u00e9") code = .ok code ∧
      intoRange ['g'] c 0 1 code = .error (.badRange 0 1 25) ∧
      ∃ front rest, Text.slice? 0 2 code = some front ∧ Text.slice? 9 25 code = some rest ∧
        intoRange ['g'] c 2 9 code
          = .ok (front ++ c.guardDeclaration ++ c.guardedCall ['g'] ++ rest) := by
  intro code c n
  obtain ⟨hfunction, hother, hrange⟩ := splice_outcome ['g'] c code
  refine ⟨?_, hother _ rfl, ((hrange 0 1).1 _).mpr (by decide), (hrange 2 9).2 (by decide)⟩
  exact (hfunction ⟨10, 25⟩ ⟨23, 25⟩ none false false).2 (by decide)

end ComponentStyles.Injection
