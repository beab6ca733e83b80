import ComponentStyles.Proofs.Shape.Process

/-!
# Calls that shapes deliver

A root module that has a shape is promised the call of its component. A marked module gets it. A
module with the render function is recognised by a function of the right name, whereas the call
needs one with a body, and in the typed dialect a function may be declared without one.
`detected_delivers_iff`: such a module gets the call exactly if one of its render functions has a
body, and comes back as it was if none has. So a module that only declares its render function is
taken for a component and left without a call (`exists_detected_without_call`).

Proof. What decides is whether the shape has a place for the call in the module, since without one
the text stays as it is, and no text holds the guard of a component whose id is longer than itself
(`delivers_iff`).
-/

namespace ComponentStyles

variable {code : Text} {id : ModuleId} {m : Module} {shape : Shape}

namespace Shape

section

variable [Script.Reader]

/-- Every component gets its call into the module. -/
def Delivers (shape : Shape) (id : ModuleId) (code : Text) : Prop :=
  ∀ routine c, ∃ out, shape.process routine c id code = .ok out ∧ c.CalledIn routine out

theorem delivers_iff (hm : Module.ofText code id = .ok m) :
    shape.Delivers id code ↔ shape.hasPlace m = true := by
  refine ⟨fun hdelivers => ?_, exists_process_calledIn hm⟩
  rw [← Bool.not_eq_false]
  intro hplace
  -- the guard of this component is too long to stand in the text
  let c := Component.fresh (List.replicate (code.length + 1) 'a') []
  obtain ⟨out, hout, hguard, _⟩ := hdelivers [] c
  rw [process_of_not_hasPlace hm hplace] at hout
  obtain rfl := Except.ok.inj hout
  have hid : c.id.length = code.length + 1 := List.length_replicate
  have hle := hguard.length_le
  rw [Component.guardDeclaration_def, List.length_append, List.length_append, Component.guardName,
    List.length_cons, List.length_cons, hid] at hle
  omega

/-- A marked module gets the call, and no other does. A module with render functions of its own gets
it exactly if one of them has a body, and otherwise stays as it is. -/
theorem detected_delivers_iff (hm : Module.ofText code id = .ok m) :
    (∀ marker, (marked marker).supports m = true ↔ (marked marker).Delivers id code) ∧
    (inlineRender.supports m = true →
      (inlineRender.Delivers id code ↔ ∃ n ∈ functionsNamed renderName m, hasBody n = true) ∧
      (¬ inlineRender.Delivers id code →
        ∀ routine c, inlineRender.process routine c id code = .ok code)) := by
  refine ⟨fun marker => ?_, fun _ => ⟨?_, fun hnot => ?_⟩⟩
  · rw [delivers_iff hm]
    rfl
  · rw [delivers_iff hm, hasPlace, List.any_eq_true]
  · rw [delivers_iff hm, Bool.not_eq_true] at hnot
    exact process_of_not_hasPlace hm hnot

end

theorem detected_delivers_iff_overloaded :
    let code : Text :=
      "/* call */ declare function _sfc_render(): void; function _sfc_render() \x7b\x7d".toList
    let id : ModuleId := "/a.ts".toList
    ∃ m, Module.ofText code id = .ok m ∧
      (marked "call".toList).Delivers id code ∧ inlineRender.Delivers id code := by
  intro code id
  have hread : (Module.ofText code id).toOption.any (fun m =>
      (marked "call".toList).supports m && inlineRender.supports m &&
        (functionsNamed renderName m).any hasBody) = true := by decide +kernel
  obtain ⟨m, hm, htest⟩ := Module.exists_of_ofText_any hread
  rw [Bool.and_eq_true, Bool.and_eq_true, List.any_eq_true] at htest
  obtain ⟨⟨hmarked, hrender⟩, hbody⟩ := htest
  obtain ⟨hdelivers, hinline⟩ := detected_delivers_iff hm
  exact ⟨m, hm, (hdelivers _).mp hmarked, (hinline hrender).1.mpr hbody⟩

/-- A module that only declares its render function is detected and gets no call. -/
theorem exists_detected_without_call :
    let code : Text := "declare function _sfc_render(): void;".toList
    let id : ModuleId := "/a.ts".toList
    ∃ m, Module.ofText code id = .ok m ∧ inlineRender.supports m = true ∧
      ¬ inlineRender.Delivers id code := by
  intro code id
  have hread : (Module.ofText code id).toOption.any (fun m =>
      inlineRender.supports m && !inlineRender.hasPlace m) = true := by decide +kernel
  obtain ⟨m, hm, htest⟩ := Module.exists_of_ofText_any hread
  rw [Bool.and_eq_true, Bool.not_eq_true'] at htest
  refine ⟨m, hm, htest.1, fun hdelivers => ?_⟩
  rw [delivers_iff hm, htest.2] at hdelivers
  cases hdelivers

end Shape

end ComponentStyles
