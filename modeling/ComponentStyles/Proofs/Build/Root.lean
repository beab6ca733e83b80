import ComponentStyles.Proofs.Build.Run

/-!
# Root modules

The transform of a root module that can be read tells its component of the module, and is answered by
the build that has been told (`transform_root_cases`). To be told twice is to be told once
(`told_told`). The answer is a text exactly if the module has a shape (`Sound.exists_rootAnswer`).
-/

namespace ComponentStyles

namespace Session

variable {s s' : Session} {path : ModuleId}

theorem get?_update (s : Session) (path : ModuleId) (change : Component → Component) :
    (s.update path change).get? path = (s.get? path).map change := by
  have hposition : (s.update path change).position? path = s.position? path := by
    rw [update_eq_with]
    rfl
  rw [get?, get?, hposition, update]
  cases s.position? path with
  | none => rfl
  | some i =>
    change (s.components.modify i change)[i]? = s.components[i]?.map change
    rw [List.getElem?_modify]
    simp only [if_pos, Option.map_eq_map]

/-- The index leads to components. -/
def Indexed (s : Session) : Prop :=
  ∀ path i, s.position? path = some i → i < s.components.length

theorem Registry.indexed (h : Registry s) : Indexed s := by
  intro path i hi
  have hplace := (List.getElem?_eq_some_iff.mp ((h.index path i).mp hi)).1
  rwa [List.length_map] at hplace

theorem Indexed.exists_get?_of_opens (h : Indexed s) (hs : s.Opens path s') :
    ∃ c, s'.get? path = some c ∧ c.files = (s.get? path).elim [] (·.files) := by
  rcases hs with ⟨c, hc, rfl⟩ | ⟨id, _, hnone, rfl⟩
  · exact ⟨c, hc, by rw [hc]; rfl⟩
  · have hmiss : s.position? path = none := by
      cases hposition : s.position? path with
      | none => rfl
      | some i =>
        rw [get?, hposition, Option.bind_some, List.getElem?_eq_getElem (h path i hposition)] at hnone
        cases hnone
    refine ⟨Component.fresh (Component.idStart ++ id) path, ?_, by rw [hnone]; rfl⟩
    rw [get?, Registry.position?_created hmiss, if_pos rfl, Option.bind_some]
    exact List.getElem?_concat_length

end Session

namespace Build

variable {b : Build} {code : Text} {id : ModuleId} {m : Module} {s : Session}

theorem learn_learn (id : ModuleId) (m : Module) (shape : Option Shape) (c : Component) :
    learn id m shape (learn id m shape c) = learn id m shape c := by
  simp only [learn_eq_with, Component.addFiles_addFiles]
  cases shape <;> rfl

theorem told_told (id : ModuleId) (m : Module) (s : Session) (b : Build) :
    told id m (told id m s b).session (told id m s b) = told id m s b := by
  have htwice : learn id m (b.shapes.detect m) ∘ learn id m (b.shapes.detect m)
      = learn id m (b.shapes.detect m) := by
    funext c
    exact learn_learn id m (b.shapes.detect m) c
  have hsession : (s.update id (learn id m (b.shapes.detect m))).update id
      (learn id m (b.shapes.detect m)) = s.update id (learn id m (b.shapes.detect m)) := by
    rw [Session.update_update, htwice]
  exact congrArg (fun session => { b with session }) hsession

theorem Sound.exists_get?_told (h : Sound b) (hs : b.session.Opens id s) (m : Module) :
    ∃ c, (told id m s b).session.get? id = some c := by
  obtain ⟨c, hc, _⟩ := h.registry.indexed.exists_get?_of_opens hs
  refine ⟨learn id m (b.shapes.detect m) c, ?_⟩
  rw [told, Session.get?_update, hc, Option.map_some]

theorem Sound.exists_rootAnswer [Script.Reader] (h : Sound b)
    (hroot : ModuleId.isComponent b.settings id = true) (hm : Module.ofText code id = .ok m)
    (hs : b.session.Opens id s) :
    ∃ answer, rootAnswer code id m (told id m s b) = .ok answer ∧
      (answer = none ↔ b.shapes.detect m = none) := by
  have hshapes : (told id m s b).shapes = b.shapes := rfl
  rw [rootAnswer, hshapes]
  cases b.shapes.detect m with
  | none => exact ⟨none, rfl, iff_of_true rfl rfl⟩
  | some shape =>
    have hscript : ModuleId.isScript (told id m s b).settings id = true :=
      isScript_of_isComponent hroot
    obtain ⟨c, hc⟩ := h.exists_get?_told hs m
    obtain ⟨out, hout⟩ :=
      Shape.exists_process_eq_ok hm shape (told id m s b).session.routine c
    refine ⟨some out, ?_, iff_of_false (Option.some_ne_none out) (Option.some_ne_none shape)⟩
    dsimp only
    rw [processModule_script hscript hc, hout]
    rfl

end Build

end ComponentStyles
