import ComponentStyles.Proofs.Injection.Splice
import ComponentStyles.Proofs.Tree.OfText
import ComponentStyles.Proofs.Tree.Preorder

/-!
# Shapes and modules that can be read

A shape fails on a text for one reason only, which is that the text cannot be read
(`process_eq_error_iff`). Once it is read, the shape has a place for the call in it or none
(`hasPlace`). With a place, the guard and the call are parts of what comes out, because the functions
of a module fit its text and its comments stand there (`exists_process_calledIn`); without one, the
text stays as it is (`process_of_not_hasPlace`).
-/

namespace ComponentStyles

variable {routine code out : Text} {c : Component} {id : ModuleId} {m : Module} {shape : Shape}

/-- The guard of a component is declared in a text, and its call stands there. -/
def Component.CalledIn (routine : Text) (c : Component) (out : Text) : Prop :=
  c.guardDeclaration <:+: out ∧ c.guardedCall routine <:+: out

theorem Injection.intoRange_append (routine : Text) (c : Component) (front middle rest : Text) :
    intoRange routine c (Text.byteLength front) (Text.byteLength (front ++ middle))
        (front ++ middle ++ rest)
      = .ok (front ++ c.guardDeclaration ++ c.guardedCall routine ++ rest) := by
  have hstart : Text.splitAtByte? (Text.byteLength front) (front ++ middle ++ rest)
      = some (front, middle ++ rest) :=
    Text.splitAtByte?_eq_some_iff.mpr ⟨List.append_assoc .., rfl⟩
  have hstop : Text.splitAtByte? (Text.byteLength (front ++ middle)) (front ++ middle ++ rest)
      = some (front ++ middle, rest) :=
    Text.splitAtByte?_eq_some_iff.mpr ⟨rfl, rfl⟩
  have hle : Text.byteLength front ≤ Text.byteLength (front ++ middle) := by
    rw [Text.byteLength_append]
    omega
  rw [intoRange, hstart, hstop]
  exact if_pos hle

theorem Injection.calledIn_of_intoFunction {n : Node} (hbody : Shape.hasBody n = true)
    (h : intoFunction routine c n code = .ok out) : c.CalledIn routine out := by
  obtain ⟨span, name, body, isAsync, isGenerator, rfl⟩ := exists_of_hasBody hbody
  obtain ⟨front, exports, head, rest, _, _, _, _, rfl⟩ := intoFunction_eq_ok_iff.mp h
  refine ⟨⟨front, exports ++ head ++ c.guardedCall routine ++ rest, ?_⟩,
    ⟨front ++ c.guardDeclaration ++ exports ++ head, rest, rfl⟩⟩
  simp only [List.append_assoc]

namespace Shape

def hasPlace (shape : Shape) (m : Module) : Bool :=
  match shape with
  | .inlineRender => (functionsNamed renderName m).any hasBody
  | .importedRender => (functionsNamed exportedRenderName m).any hasBody
  | .marked marker => m.comments.any fun c => c.text == marker

theorem intoNamed_of_any_eq_false {name : String}
    (h : (functionsNamed name m).any hasBody = false) :
    intoNamed name routine c m code = .ok code := by
  have hnone : (functionsNamed name m).find? hasBody = none := by
    rw [List.find?_eq_none]
    exact List.any_eq_false.mp h
  rw [intoNamed, hnone]

/-! ### With a place -/

variable [Script.Reader]

theorem exists_intoNamed_calledIn (hm : Module.ofText code id = .ok m) {name : String}
    (h : (functionsNamed name m).any hasBody = true) :
    ∃ out, intoNamed name routine c m code = .ok out ∧ c.CalledIn routine out := by
  obtain ⟨n, hfound⟩ : ∃ n, (functionsNamed name m).find? hasBody = some n := by
    rw [← Option.isSome_iff_exists, List.find?_isSome]
    exact List.any_eq_true.mp h
  have hbody : hasBody n = true := List.find?_some hfound
  have hn : n ∈ functionsNamed name m := List.mem_of_find?_eq_some hfound
  obtain ⟨_, _, _, _, hfits⟩ := Module.exists_script_of_ofText hm
  have hfit := Node.fits_of_mem_preorder hfits (Node.mem_search_iff.mp hn).1
  obtain ⟨out, hout⟩ : ∃ out, Injection.intoFunction routine c n code = .ok out := by
    obtain ⟨span, id, body, isAsync, isGenerator, rfl⟩ := Injection.exists_of_hasBody hbody
    exact Injection.exists_intoFunction_eq_ok hfit
  refine ⟨out, ?_, Injection.calledIn_of_intoFunction hbody hout⟩
  rw [intoNamed, hfound]
  exact hout

theorem exists_process_marked (hm : Module.ofText code id = .ok m) {marker : Text}
    {comment : Comment}
    (hfound : (m.comments.find? fun c => c.text == marker) = some comment) :
    ∃ front raw rest, code = front ++ raw ++ rest ∧
      Text.byteLength front = comment.span.start ∧
      Text.byteLength (front ++ raw) = comment.span.stop ∧
      ∀ routine c, (marked marker).process routine c id code
        = .ok (front ++ c.guardDeclaration ++ c.guardedCall routine ++ rest) := by
  obtain ⟨front, raw, rest, rfl, hstart, hstop⟩ :=
    Module.exists_append_of_mem_comments hm (List.mem_of_find?_eq_some hfound)
  refine ⟨front, raw, rest, rfl, hstart, hstop, fun routine c => ?_⟩
  rw [process, hm]
  dsimp only [bind, Except.bind]
  rw [hfound]
  dsimp only
  rw [← hstart, ← hstop]
  exact Injection.intoRange_append routine c front raw rest

theorem exists_process_calledIn (hm : Module.ofText code id = .ok m)
    (h : shape.hasPlace m = true) (routine : Text) (c : Component) :
    ∃ out, shape.process routine c id code = .ok out ∧ c.CalledIn routine out := by
  cases shape with
  | inlineRender =>
    rw [process, hm]
    exact exists_intoNamed_calledIn hm h
  | importedRender =>
    rw [process, hm]
    exact exists_intoNamed_calledIn hm h
  | marked marker =>
    obtain ⟨comment, hfound⟩ : ∃ comment, (m.comments.find? fun c => c.text == marker)
        = some comment := by
      rw [← Option.isSome_iff_exists, List.find?_isSome]
      exact List.any_eq_true.mp h
    obtain ⟨front, raw, rest, _, _, _, hprocess⟩ := exists_process_marked hm hfound
    exact ⟨_, hprocess routine c, ⟨front, c.guardedCall routine ++ rest, by
      simp only [List.append_assoc]⟩, ⟨front ++ c.guardDeclaration, rest, rfl⟩⟩

/-! ### Without a place -/

theorem process_of_not_hasPlace (hm : Module.ofText code id = .ok m)
    (h : shape.hasPlace m = false) (routine : Text) (c : Component) :
    shape.process routine c id code = .ok code := by
  rw [process, hm]
  cases shape with
  | inlineRender => exact intoNamed_of_any_eq_false h
  | importedRender => exact intoNamed_of_any_eq_false h
  | marked marker =>
    have hnone : (m.comments.find? fun c => c.text == marker) = none := by
      rw [List.find?_eq_none]
      exact List.any_eq_false.mp h
    dsimp only [bind, Except.bind]
    rw [hnone]

/-! ### Failures -/

theorem exists_process_eq_ok (hm : Module.ofText code id = .ok m) (shape : Shape) (routine : Text)
    (c : Component) :
    ∃ out, shape.process routine c id code = .ok out := by
  cases hplace : shape.hasPlace m with
  | false => exact ⟨code, process_of_not_hasPlace hm hplace routine c⟩
  | true =>
    obtain ⟨out, hout, _⟩ := exists_process_calledIn hm hplace routine c
    exact ⟨out, hout⟩

/-- A shape fails just where the text cannot be read, and for the same reason. -/
theorem process_eq_error_iff {fault : Fault} :
    shape.process routine c id code = .error fault ↔ Module.ofText code id = .error fault := by
  constructor
  · intro h
    cases hm : Module.ofText code id with
    | error fault' =>
      rw [process, hm] at h
      exact congrArg Except.error (Except.error.inj h)
    | ok m =>
      obtain ⟨out, hout⟩ := exists_process_eq_ok hm shape routine c
      rw [hout] at h
      cases h
  · intro h
    rw [process, h]
    rfl

end Shape

end ComponentStyles
