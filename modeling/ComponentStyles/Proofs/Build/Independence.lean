import ComponentStyles.Proofs.Build.Order
import ComponentStyles.Proofs.Build.Root

/-!
# What is generated does not depend on styles

Style texts arrive in their own time, and the calls that are put into scripts must not depend on what
has arrived so far. They do not (`outcomes_eq_of_alike`): two builds that are the same but for the
style texts of their components answer alike, whatever is asked of them, and stay the same but for
these texts. It does not even matter which texts the style blocks have, or whether they are the same
in both builds.

Proof. All steps of an operation are taken without looking at the style texts, so it comes to the
same whether they are left out before it or behind it (`perform_bare`). A module that is no script
changes style texts only, and its answer does not depend on its text (`transform_of_not_isScript`).
The rest is an induction over the two runs.
-/

namespace ComponentStyles

namespace Session

variable {s : Session} {draw : Draw} {path : ModuleId}

theorem bare_bare (s : Session) : s.bare.bare = s.bare := by
  rw [bare, bare, mapComponents_mapComponents]
  rfl

theorem update_bare {change : Component → Component}
    (hchange : ∀ c : Component, change c.bare = (change c).bare) (s : Session) (path : ModuleId) :
    s.bare.update path change = (s.update path change).bare := by
  have hposition : s.bare.position? path = s.position? path := rfl
  rw [update, update, hposition]
  cases s.position? path with
  | none => rfl
  | some i =>
    have hcomponents : (s.components.map Component.bare).modify i change
        = (s.components.modify i change).map Component.bare := by
      apply List.ext_getElem?
      intro j
      simp only [List.getElem?_modify, List.getElem?_map]
      cases s.components[j]? with
      | none => rfl
      | some c =>
        simp only [Option.map_some, Option.map_eq_map, apply_ite Component.bare, hchange]
    exact congrArg (fun components => { s with components }) hcomponents

theorem issue_bare (draw : Draw) (s : Session) :
    s.bare.issue draw = ((s.issue draw).1, (s.issue draw).2.bare) := by
  have hfresh : draw.firstFresh s.bare.settings.placeholderLength s.bare.issued 0
      s.bare.settings.placeholderRetries = draw.firstFresh s.settings.placeholderLength s.issued 0
        s.settings.placeholderRetries := rfl
  rw [issue, issue, hfresh]
  split <;> rfl

theorem getOrCreate_bare (draw : Draw) (path : ModuleId) (s : Session) :
    s.bare.getOrCreate draw path
      = ((s.getOrCreate draw path).1.map Component.bare, (s.getOrCreate draw path).2.bare) := by
  rw [getOrCreate, getOrCreate, get?_bare, issue_bare]
  cases s.get? path with
  | some c => rfl
  | none =>
    rcases s.issue draw with ⟨fault | id, s'⟩
    · rfl
    · simp only [Option.map_none, Except.map, bare, mapComponents, List.map_append, List.length_map]
      rfl

end Session

namespace Build

variable {b b' : Build} {draw : Draw} {code : Text} {id : ModuleId}

/-! ### One operation -/

theorem bare_bare (b : Build) : b.bare.bare = b.bare :=
  congrArg (fun session => { b with session }) b.session.bare_bare

theorem learn_bare (id : ModuleId) (m : Module) (shape : Option Shape) (c : Component) :
    learn id m shape c.bare = (learn id m shape c).bare := by
  rw [learn_eq_with, learn_eq_with]
  rfl

theorem told_bare (id : ModuleId) (m : Module) (s : Session) (b : Build) :
    told id m s.bare b.bare = (told id m s b).bare :=
  congrArg (fun session => { b with session }) (Session.update_bare (learn_bare id m _) s id)

section

variable [Script.Reader]

theorem rootAnswer_bare (code : Text) (id : ModuleId) (m : Module) (b : Build) :
    rootAnswer code id m b.bare = rootAnswer code id m b := by
  have hdetect : b.bare.shapes.detect m = b.shapes.detect m := rfl
  rw [rootAnswer, rootAnswer, hdetect]
  cases b.shapes.detect m with
  | none => rfl
  | some shape => exact processModule_bare id shape code id b

theorem transform_bare (draw : Draw) (code : Text) (id : ModuleId) (b : Build) :
    (b.bare.transform draw code id).1 = (b.transform draw code id).1 ∧
      (b.bare.transform draw code id).2.bare = (b.transform draw code id).2.bare := by
  cases hroot : ModuleId.isComponent b.settings id with
  | false =>
    have hbare : ModuleId.isComponent b.bare.settings id = false := hroot
    rw [transform_of_not_isComponent hroot, transform_of_not_isComponent hbare]
    refine ⟨transformDependent_bare code id b, ?_⟩
    rw [bare_transformDependent, bare_transformDependent, bare_bare]
  | true =>
    have hbare : ModuleId.isComponent b.bare.settings id = true := hroot
    have hget := Session.getOrCreate_bare draw id b.session
    cases hm : Module.ofText code id with
    | error fault =>
      rw [transform, transform, if_pos hroot, if_pos hbare, transformRoot_of_unreadable hm,
        transformRoot_of_unreadable hm]
      exact ⟨rfl, bare_bare b⟩
    | ok m =>
      rcases hcreate : b.session.getOrCreate draw id with ⟨fault | c, s⟩
      · rw [hcreate] at hget
        rw [transform, transform, if_pos hroot, if_pos hbare, transformRoot_of_exhausted hm hcreate,
          transformRoot_of_exhausted hm hget]
        exact ⟨rfl, bare_bare b⟩
      · rw [hcreate] at hget
        rw [transform_of_getOrCreate hroot hm hcreate, transform_of_getOrCreate hbare hm hget,
          told_bare, rootAnswer_bare]
        exact ⟨rfl, bare_bare _⟩

/-- An operation does not look at style texts. -/
theorem perform_bare (operation : Operation) (b : Build) :
    (b.bare.perform operation).1 = (b.perform operation).1 ∧
      (b.bare.perform operation).2.bare = (b.perform operation).2.bare := by
  cases operation with
  | restart draw =>
    have hsettings : b.bare.settings = b.settings := rfl
    rw [perform, perform, restart, restart, hsettings]
    cases Session.start draw b.settings with
    | ok session => exact ⟨rfl, rfl⟩
    | error fault => exact ⟨rfl, bare_bare b⟩
  | transform draw code id => exact transform_bare draw code id b

theorem perform_of_bare_eq (h : b'.bare = b.bare) (operation : Operation) :
    (b'.perform operation).1 = (b.perform operation).1 ∧
      (b'.perform operation).2.bare = (b.perform operation).2.bare := by
  obtain ⟨hanswer, hbuild⟩ := perform_bare operation b
  obtain ⟨hanswer', hbuild'⟩ := perform_bare operation b'
  rw [h] at hanswer' hbuild'
  exact ⟨hanswer'.symm.trans hanswer, hbuild'.symm.trans hbuild⟩

theorem transform_of_not_isScript (hscript : ModuleId.isScript b.settings id = false)
    (draw draw' : Draw) (code code' : Text) :
    (b.transform draw code id).1 = (b.transform draw' code' id).1 ∧
      (b.transform draw code id).2.bare = b.bare := by
  have hroot : ModuleId.isComponent b.settings id = false := by
    rw [ModuleId.isScript, Bool.or_eq_false_iff] at hscript
    exact hscript.1
  have hprocess : ∀ path shape, (processModule path shape code id b).1
      = (processModule path shape code' id b).1 := by
    intro path shape
    rw [processModule, processModule, hscript, if_neg Bool.false_ne_true, if_neg Bool.false_ne_true]
    split <;> rfl
  rw [transform_of_not_isComponent hroot, transform_of_not_isComponent hroot]
  refine ⟨?_, bare_transformDependent code id b⟩
  rw [transformDependent, transformDependent]
  split
  · rfl
  · split
    · exact hprocess _ _
    · rfl

/-! ### Runs -/

/-- Two operations that are the same, or that transform the same module, which is no script, with any
texts and random choices. -/
inductive Alike (settings : Settings) : Operation → Operation → Prop where
  | same (operation : Operation) : Alike settings operation operation
  | noScript {id : ModuleId} (hscript : ModuleId.isScript settings id = false) (draw draw' : Draw)
      (code code' : Text) : Alike settings (.transform draw code id) (.transform draw' code' id)

theorem perform_of_alike (h : b'.bare = b.bare) {operation operation' : Operation}
    (halike : Alike b.settings operation operation') :
    (b'.perform operation').1 = (b.perform operation).1 ∧
      (b'.perform operation').2.bare = (b.perform operation).2.bare := by
  cases halike with
  | same => exact perform_of_bare_eq h operation
  | @noScript id hscript draw draw' code code' =>
    obtain ⟨hanswer, hbuild⟩ := perform_of_bare_eq h (.transform draw' code' id)
    obtain ⟨hsame, hkept⟩ := transform_of_not_isScript hscript draw draw' code code'
    obtain ⟨_, hkept'⟩ := transform_of_not_isScript hscript draw' draw code' code
    exact ⟨hanswer.trans hsame.symm, hbuild.trans (hkept'.trans hkept.symm)⟩

def outcomes : List Operation → Build → List (Except Fault (Option Text))
  | [], _ => []
  | operation :: operations, b =>
    (b.perform operation).1 :: outcomes operations (b.perform operation).2

theorem outcomes_of_alike {settings : Settings} (hsettings : b.settings = settings)
    (h : b'.bare = b.bare) {operations operations' : List Operation}
    (halike : List.Forall₂ (Alike settings) operations operations') :
    b'.outcomes operations' = b.outcomes operations ∧
      (b'.run operations').bare = (b.run operations).bare := by
  induction halike generalizing b b' with
  | nil => exact ⟨rfl, h⟩
  | @cons operation operation' operations operations' hfirst _ ih =>
    subst hsettings
    obtain ⟨hanswer, hbuild⟩ := perform_of_alike h hfirst
    obtain ⟨hanswers, hbuilds⟩ := ih (settings_perform operation b) hbuild
    rw [outcomes, outcomes, hanswer, hanswers]
    exact ⟨rfl, hbuilds⟩

/-- Two builds that are the same but for their style texts answer each operation alike and stay the
same but for these texts. So they answer all operations of a run alike, also if they are given other
texts for modules that are no scripts. -/
theorem outcomes_eq_of_alike (h : b'.bare = b.bare) :
    (∀ operation : Operation, (b'.perform operation).1 = (b.perform operation).1 ∧
        (b'.perform operation).2.bare = (b.perform operation).2.bare) ∧
      ∀ operations operations' : List Operation,
        List.Forall₂ (Alike b.settings) operations operations' →
          b'.outcomes operations' = b.outcomes operations ∧
            (b'.run operations').bare = (b.run operations).bare :=
  ⟨perform_of_bare_eq h, fun _ _ halike => outcomes_of_alike rfl h halike⟩

end

/-- A component with a style text and one without. Both get the same call in their script, while the
style block is given a text of its own in each build. -/
theorem outcomes_eq_of_alike_styled :
    let component (css : List (Text × Text)) : Component :=
      { Component.fresh "__vpsi_b".toList "/A.vue".toList with
        shape := some Shape.importedRender.tag
        files := ["/A.vue?lang.js".toList, "/A.vue?lang.css".toList], css }
    let build (css : List (Text × Text)) : Build :=
      { initial with
        session :=
          { initial.session with components := [component css], index := [("/A.vue".toList, 0)] } }
    let operations (style : String) : List Operation :=
      [.transform (fun _ _ => 1) style.toList "/A.vue?lang.css".toList,
        .transform (fun _ _ => 1) "function render() \x7b\x7d".toList "/A.vue?lang.js".toList]
    let b := build []
    let b' := build [("/A.vue".toList, "p".toList)]
    b'.bare = b.bare ∧ b'.session.styleTexts ≠ b.session.styleTexts ∧
      List.Forall₂ (Alike b.settings) (operations "q") (operations "r") ∧
      b'.outcomes (operations "r") = b.outcomes (operations "q") ∧
      b.outcomes (operations "q")
        = [.ok (some []), .ok (some ((component []).guardDeclaration ++
            "function render() \x7b".toList ++ (component []).guardedCall initial.session.routine ++
              "\x7d".toList))] := by
  intro component build operations b b'
  have hbare : b'.bare = b.bare := rfl
  have halike : List.Forall₂ (Alike b.settings) (operations "q") (operations "r") :=
    .cons (.noScript (by decide +kernel) _ _ _ _) (.cons (.same _) .nil)
  exact ⟨hbare, by decide +kernel, halike, ((outcomes_eq_of_alike hbare).2 _ _ halike).1,
    by decide +kernel⟩

end Build

end ComponentStyles
