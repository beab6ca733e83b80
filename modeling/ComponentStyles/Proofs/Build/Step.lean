import ComponentStyles.Build
import ComponentStyles.Proofs.Session.Registry
import ComponentStyles.Proofs.Shape.Process
import Mathlib.Data.Prod.Basic

/-!
# What an operation does to a build

A host starts a build over and has modules transformed, in any order. An operation that fails leaves
the build as it was (`eq_of_perform_eq_error`): a start that fails has nothing to put in the place of
the old session, and a transform fails only if the text of the module cannot be read or if there is
no id for a new component.

Proof. A root module is read before anything else and an id is issued before anything is recorded,
so what is recorded is never followed by a failure: the text is read once more to put the call into
it, with the same outcome (`Shape.process_eq_error_iff`). Other modules are either read or recorded.
-/

namespace ComponentStyles

namespace Session

variable {s s' : Session} {draw : Draw} {path : ModuleId}

/-- The session in which the component of a file is known: it is known before, or created. -/
def Opens (s : Session) (path : ModuleId) (s' : Session) : Prop :=
  (∃ c, s.get? path = some c ∧ s' = s) ∨
    ∃ id, s.Issuable id ∧ s.get? path = none ∧ s' = s.created id path

theorem getOrCreate_eq_ok {c : Component} (h : s.getOrCreate draw path = (.ok c, s')) :
    s.Opens path s' := by
  rcases s.getOrCreate_cases draw path with
    ⟨d, hget, heq⟩ | ⟨fault, _, heq⟩ | ⟨id, hnone, hyields, hfresh, heq⟩
  · rw [heq] at h
    exact Or.inl ⟨d, hget, (Prod.mk.inj h).2.symm⟩
  · rw [heq] at h
    cases (Prod.mk.inj h).1
  · rw [heq] at h
    exact Or.inr ⟨id, ⟨hyields, hfresh⟩, hnone, (Prod.mk.inj h).2.symm⟩

theorem issue_eq_error {fault : Fault} (h : s.issue draw = (.error fault, s')) :
    s' = s ∧ fault = .idsExhausted s.settings.placeholderRetries := by
  obtain ⟨_, hfault, hs⟩ := issue_eq_error_iff.mp h
  exact ⟨hs, hfault⟩

theorem getOrCreate_eq_error {fault : Fault} (h : s.getOrCreate draw path = (.error fault, s')) :
    s' = s ∧ fault = .idsExhausted s.settings.placeholderRetries := by
  rw [getOrCreate] at h
  split at h
  · cases (Prod.mk.inj h).1
  · split at h
    · cases (Prod.mk.inj h).1
    · rename_i hissue
      obtain ⟨rfl, hfault⟩ := issue_eq_error hissue
      obtain ⟨heq, rfl⟩ := Prod.mk.inj h
      exact ⟨rfl, (Except.error.inj heq).symm.trans hfault⟩

theorem start_eq_error {settings : Settings} {fault : Fault}
    (h : start draw settings = .error fault) :
    fault = .idsExhausted settings.placeholderRetries := by
  rw [start] at h
  split at h
  · cases h
  · rename_i hissue
    obtain ⟨_, hfault⟩ := issue_eq_error hissue
    exact (Except.error.inj h).symm.trans hfault

theorem update_update (s : Session) (path : ModuleId) (f g : Component → Component) :
    (s.update path f).update path g = s.update path (g ∘ f) := by
  have hposition : (s.update path f).position? path = s.position? path := by
    rw [update_eq_with]
    rfl
  rw [update, hposition]
  cases hi : s.position? path with
  | none => simp only [update, hi]
  | some i => simp only [update, hi, List.modify_modify_eq]

end Session

namespace Build

variable {b b' : Build} {draw : Draw} {code : Text} {id path : ModuleId} {shape : Shape}
  {fault : Fault}

theorem eq_of_restart_eq_error (h : b.restart draw = (.error fault, b')) :
    b' = b ∧ fault = .idsExhausted b.settings.placeholderRetries := by
  rw [restart] at h
  split at h
  · cases (Prod.mk.inj h).1
  · rename_i hstart
    obtain ⟨hfault, rfl⟩ := Prod.mk.inj h
    exact ⟨rfl, (Except.error.inj hfault).symm.trans (Session.start_eq_error hstart)⟩

/-! ### Modules of a component -/

section

variable [Script.Reader]

theorem processModule_script (hscript : ModuleId.isScript b.settings id = true) {c : Component}
    (hget : b.session.get? path = some c) :
    processModule path shape code id b = (some <$> shape.process b.session.routine c id code, b) := by
  rw [processModule, if_pos hscript, hget]

theorem processModule_style (hscript : ModuleId.isScript b.settings id = false)
    (hstyle : ModuleId.isStyle b.settings id = true) {c : Component}
    (hget : b.session.get? path = some c) :
    processModule path shape code id b
      = (.ok (some []),
          { b with
            session := b.session.update path (Component.recordStyle b.settings id code) }) := by
  rw [processModule, hscript, hstyle, hget]
  rfl

theorem processModule_other (hscript : ModuleId.isScript b.settings id = false)
    (hstyle : ModuleId.isStyle b.settings id = false) :
    processModule path shape code id b = (.ok none, b) := by
  rw [processModule, hscript, hstyle]
  rfl

theorem processModule_eq_error (h : processModule path shape code id b = (.error fault, b')) :
    b' = b ∧ Module.ofText code id = .error fault := by
  rw [processModule] at h
  split at h
  · split at h
    · obtain ⟨hprocess, rfl⟩ := Prod.mk.inj h
      refine ⟨rfl, ?_⟩
      rename_i c _
      cases hout : shape.process b.session.routine c id code with
      | ok out =>
        rw [hout] at hprocess
        cases hprocess
      | error fault' =>
        rw [hout] at hprocess
        rw [← Except.error.inj hprocess]
        exact Shape.process_eq_error_iff.mp hout
    · cases (Prod.mk.inj h).1
  · split at h
    · cases (Prod.mk.inj h).1
    · cases (Prod.mk.inj h).1

/-! ### Root modules -/

/-- What a root module tells of its component: the imports, and the shape if it has one. -/
def learn (id : ModuleId) (m : Module) (shape : Option Shape) (c : Component) : Component :=
  match shape with
  | none => recordImports id m c
  | some shape => { recordImports id m c with shape := some shape.tag }

/-- The build in which the component of a root module has been told of the module. -/
def told (id : ModuleId) (m : Module) (s : Session) (b : Build) : Build :=
  { b with session := s.update id (learn id m (b.shapes.detect m)) }

theorem transformRoot_of_unreadable (h : Module.ofText code id = .error fault) :
    transformRoot draw code id b = (.error fault, b) := by
  rw [transformRoot, h]

theorem transformRoot_of_exhausted {m : Module} (hm : Module.ofText code id = .ok m)
    {s : Session} (h : b.session.getOrCreate draw id = (.error fault, s)) :
    transformRoot draw code id b = (.error fault, b) := by
  obtain ⟨rfl, _⟩ := Session.getOrCreate_eq_error h
  simp only [transformRoot, hm, h]

/-- A root module is transformed as a module of its component, which has been told of it before. -/
theorem transformRoot_of_opens {m : Module} (hm : Module.ofText code id = .ok m)
    {c : Component} {s : Session} (h : b.session.getOrCreate draw id = (.ok c, s)) :
    transformRoot draw code id b
      = match b.shapes.detect m with
        | none => (.ok none, told id m s b)
        | some shape => processModule id shape code id (told id m s b) := by
  simp only [transformRoot, hm, h, told]
  cases b.shapes.detect m with
  | none => rfl
  | some shape =>
    dsimp only
    rw [Session.update_update]
    rfl

/-! ### Operations -/

/-- What a host asks of a build until its bundle is complete. -/
inductive Operation where
  | restart (draw : Draw)
  | transform (draw : Draw) (code : Text) (id : ModuleId)

/-- Performs an operation. A start has no text to give. -/
def perform (operation : Operation) (b : Build) : Except Fault (Option Text) × Build :=
  match operation with
  | .restart draw => ((fun _ => none) <$> (b.restart draw).1, (b.restart draw).2)
  | .transform draw code id => b.transform draw code id

theorem eq_of_transform_eq_error (h : b.transform draw code id = (.error fault, b')) :
    b' = b ∧ (Module.ofText code id = .error fault ∨
      fault = .idsExhausted b.session.settings.placeholderRetries) := by
  rw [transform] at h
  split at h
  · cases hm : Module.ofText code id with
    | error fault' =>
      rw [transformRoot_of_unreadable hm] at h
      obtain ⟨hfault, rfl⟩ := Prod.mk.inj h
      exact ⟨rfl, Or.inl (by rw [Except.error.inj hfault])⟩
    | ok m =>
      rcases hget : b.session.getOrCreate draw id with ⟨fault' | c, s⟩
      · rw [transformRoot_of_exhausted hm hget] at h
        obtain ⟨hfault, rfl⟩ := Prod.mk.inj h
        obtain ⟨_, hexhausted⟩ := Session.getOrCreate_eq_error hget
        exact ⟨rfl, Or.inr ((Except.error.inj hfault).symm.trans hexhausted)⟩
      · -- behind the first change the module would have to be unreadable after all
        rw [transformRoot_of_opens hm hget] at h
        split at h
        · cases (Prod.mk.inj h).1
        · rw [(processModule_eq_error h).2] at hm
          cases hm
  · rw [transformDependent] at h
    split at h
    · cases (Prod.mk.inj h).1
    · split at h
      · exact (processModule_eq_error h).imp_right Or.inl
      · cases (Prod.mk.inj h).1

/-- An operation that fails leaves the whole build as it was. It is a transform of a module that
cannot be read, or all ids that were drawn are in use. -/
theorem eq_of_perform_eq_error {operation : Operation}
    (h : b.perform operation = (.error fault, b')) :
    b' = b ∧ ((∃ draw code id, operation = .transform draw code id ∧
        Module.ofText code id = .error fault) ∨
      ∃ tries, fault = .idsExhausted tries) := by
  cases operation with
  | restart draw =>
    rw [perform] at h
    obtain ⟨hfault, hstate⟩ := Prod.mk.inj h
    cases hrestart : (b.restart draw).1 with
    | ok _ =>
      rw [hrestart] at hfault
      cases hfault
    | error fault' =>
      rw [hrestart] at hfault
      obtain ⟨heq, hexhausted⟩ := eq_of_restart_eq_error (Prod.ext hrestart hstate)
      exact ⟨heq, Or.inr ⟨_, (Except.error.inj hfault).symm.trans hexhausted⟩⟩
  | transform draw code id =>
    obtain ⟨heq, hfault⟩ := eq_of_transform_eq_error h
    exact ⟨heq, hfault.imp (fun hm => ⟨draw, code, id, rfl, hm⟩) fun hexhausted => ⟨_, hexhausted⟩⟩

end

theorem eq_of_perform_eq_error_exhausted :
    let settings : Settings := { placeholderLength := 1, placeholderRetries := 1 }
    let b : Build :=
      { settings, shapes := .stock settings.markerComment
        session :=
          { settings, components := [], index := [], issued := [['a']]
            routine := "_vpis_a".toList } }
    let operation : Operation :=
      .transform (fun _ _ => 0) "function _sfc_render() \x7b\x7d".toList "/A.vue".toList
    withShapes (fun _ _ => 0) settings (.stock settings.markerComment) = .ok b ∧
      (b.perform operation).1 = .error (.idsExhausted 1) ∧ (b.perform operation).2 = b := by
  intro settings b operation
  have hfault : (b.perform operation).1 = .error (.idsExhausted 1) := by decide +kernel
  have hperform := Prod.fst_eq_iff.mp hfault
  exact ⟨rfl, hfault, (eq_of_perform_eq_error hperform).1⟩

end Build

end ComponentStyles
