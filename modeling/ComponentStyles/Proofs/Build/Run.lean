import ComponentStyles.Proofs.Build.Step
import ComponentStyles.Proofs.Component.Files

/-!
# Runs of a build

In every build that a run leads to, the registry of the session is consistent and each shape in it
is one that the build knows (`Sound`, `Sound.run`). So an owner is always found again by its path and
its shape, and a transform does one of three things to the build (`Sound.transform_cases`): nothing,
learning of a component from its root module, or capturing a style block for the component that owns
it.
-/

namespace ComponentStyles

namespace Session

variable {s s' : Session} {path : ModuleId}

theorem Opens.components (h : s.Opens path s') :
    s'.components = s.components ∨
      (∀ c, s.get? path ≠ some c) ∧
        ∃ id, s'.components = s.components ++ [Component.fresh (Component.idStart ++ id) path] := by
  rcases h with ⟨c, _, rfl⟩ | ⟨id, _, hnone, rfl⟩
  · exact Or.inl rfl
  · refine Or.inr ⟨fun c hc => ?_, id, rfl⟩
    rw [hnone] at hc
    cases hc

theorem Registry.opens (h : Registry s) (hs : s.Opens path s') : Registry s' := by
  rcases hs with ⟨c, _, rfl⟩ | ⟨id, hid, hnone, rfl⟩
  · exact h
  · exact h.created hid hnone

end Session

/-! ### What a root module tells -/

namespace Component

theorem Amends.comp {f g : Component → Component} (hg : Amends g) (hf : Amends f) :
    Amends fun c => g (f c) where
  identity c := (hg.identity (f c)).trans (hf.identity c)
  files c h := hg.files (f c) (hf.files c h)
  keys c h := hg.keys (f c) (hf.keys c h)

theorem amends_recordDependencies (importer : ModuleId) (specifiers : List Text) :
    Amends fun c => specifiers.foldl (fun c specifier => (c.recordDependency importer specifier).2)
      c := by
  induction specifiers with
  | nil => exact ⟨fun _ => rfl, fun _ h => h, fun _ h => h⟩
  | cons specifier specifiers ih => exact ih.comp (amends_recordDependency importer specifier)

end Component

namespace Build

variable {b : Build} {draw : Draw} {code : Text} {id path : ModuleId} {m : Module}
  {shape : Option Shape}

theorem amends_learn (id : ModuleId) (m : Module) (shape : Option Shape) :
    Component.Amends (learn id m shape) := by
  have himports := Component.amends_recordDependencies id (importSpecifiers m)
  cases shape with
  | none => exact himports
  | some shape => exact (Component.amends_setShape (some shape.tag)).comp himports

/-- The files that a root module imports, as often as it does. -/
def importedFiles (id : ModuleId) (m : Module) : List ModuleId :=
  (importSpecifiers m).filterMap (ModuleId.resolve id)

theorem learn_eq_with (id : ModuleId) (m : Module) (shape : Option Shape) (c : Component) :
    learn id m shape c
      = { c with
          files := Component.addFiles c.files (importedFiles id m)
          shape := (shape.map Shape.tag).or c.shape } := by
  have himports : recordImports id m c
      = { c with files := Component.addFiles c.files (importedFiles id m) } :=
    Component.recordDependencies_eq_addFiles id (importSpecifiers m) c
  cases shape with
  | none => exact himports
  | some shape => rw [learn, himports]; rfl

theorem css_learn (id : ModuleId) (m : Module) (shape : Option Shape) (c : Component) :
    (learn id m shape c).css = c.css := by
  rw [learn_eq_with]

/-! ### Sound builds -/

/-- What holds of a build at all times: its registry is consistent, and it knows the shapes of its
components. -/
structure Sound (b : Build) : Prop where
  registry : b.session.Registry
  shapes : ∀ c ∈ b.session.components, ∀ tag, c.shape = some tag →
    (b.shapes.get? tag).isSome = true

theorem isSome_get?_of_detect {set : ShapeSet} {known : Shape} (h : set.detect m = some known) :
    (set.get? known.tag).isSome = true := by
  rw [ShapeSet.get?, Detector.get?, List.find?_isSome]
  exact ⟨known, List.mem_of_find?_eq_some h, decide_eq_true rfl⟩

/-- The file of the component that captures a module as a style block. Roots and scripts are not
captured, and neither are modules that no component with a shape imports. -/
def capturer? (id : ModuleId) (b : Build) : Option ModuleId :=
  if ModuleId.isComponent b.settings id || ModuleId.isScript b.settings id ||
      !ModuleId.isStyle b.settings id then none
  else (b.session.ownerOf id).map (·.path)

theorem capturer?_eq_some_iff :
    b.capturer? id = some path ↔
      ModuleId.isComponent b.settings id = false ∧ ModuleId.isScript b.settings id = false ∧
        ModuleId.isStyle b.settings id = true ∧
          ∃ c, b.session.ownerOf id = some c ∧ c.path = path := by
  rw [capturer?]
  cases ModuleId.isComponent b.settings id <;> cases ModuleId.isScript b.settings id <;>
    cases ModuleId.isStyle b.settings id <;> simp

theorem isScript_of_isComponent {settings : Settings}
    (h : ModuleId.isComponent settings id = true) : ModuleId.isScript settings id = true := by
  rw [ModuleId.isScript, h, Bool.true_or]

namespace Sound

theorem of_ownerOf (h : Sound b) {c : Component} (howner : b.session.ownerOf id = some c) :
    b.session.get? c.path = some c ∧
      ∃ known, (c.shape.bind fun tag => b.shapes.get? tag) = some known := by
  have hc : c ∈ b.session.components := List.mem_of_find?_eq_some howner
  refine ⟨h.registry.get?_eq_some_iff.mpr ⟨hc, rfl⟩, ?_⟩
  have hshape := List.find?_some howner
  rw [Bool.and_eq_true] at hshape
  obtain ⟨tag, htag⟩ := Option.isSome_iff_exists.mp hshape.1
  obtain ⟨known, hknown⟩ := Option.isSome_iff_exists.mp (h.shapes c hc tag htag)
  exact ⟨known, by rw [htag, Option.bind_some, hknown]⟩

theorem of_told {s : Session} (h : Sound b) (hs : b.session.Opens id s) :
    Sound (told id m s b) where
  registry := (h.registry.opens hs).update id (amends_learn id m _)
  shapes := by
    have hopened : ∀ c ∈ s.components, ∀ tag, c.shape = some tag →
        (b.shapes.get? tag).isSome = true := by
      intro c hc tag htag
      rcases hs.components with heq | ⟨_, new, heq⟩
      · exact h.shapes c (heq ▸ hc) tag htag
      · rw [heq] at hc
        rcases List.mem_append.mp hc with hc | hc
        · exact h.shapes c hc tag htag
        · rw [List.mem_singleton.mp hc] at htag
          cases htag
    intro d hd tag htag
    rcases Session.mem_update hd with hd | ⟨c, hc, rfl⟩
    · exact hopened d hd tag htag
    · rw [learn_eq_with] at htag
      cases hdetect : b.shapes.detect m with
      | none =>
        rw [hdetect] at htag
        exact hopened c hc tag htag
      | some known =>
        rw [hdetect] at htag
        obtain rfl := Option.some.inj htag
        exact isSome_get?_of_detect hdetect

theorem capture (h : Sound b) (path id : ModuleId) (text : Text) :
    Sound
      { b with session := b.session.update path (Component.recordStyle b.settings id text) } where
  registry := h.registry.update path (Component.amends_recordStyle b.settings id text)
  shapes d hd tag htag := by
    rcases Session.mem_update hd with hd | ⟨c, hc, rfl⟩
    · exact h.shapes d hd tag htag
    · exact h.shapes c hc tag htag

theorem of_start {session : Session} (hstart : Session.start draw b.settings = .ok session) :
    Sound { b with session } := by
  obtain ⟨hregistry, _, hnone⟩ := Session.Registry.start hstart
  refine ⟨hregistry, fun c hc => ?_⟩
  rw [hnone] at hc
  exact absurd hc List.not_mem_nil

end Sound

/-! ### Builds that have just been started -/

theorem eq_of_withShapes {settings : Settings} {shapes : ShapeSet}
    (h : withShapes draw settings shapes = .ok b) :
    b.settings = settings ∧ Session.start draw settings = .ok b.session := by
  rw [withShapes] at h
  cases hstart : Session.start draw settings with
  | error fault =>
    rw [hstart] at h
    cases h
  | ok session =>
    rw [hstart] at h
    obtain rfl := Except.ok.inj h
    exact ⟨rfl, rfl⟩

/-- A build with the stock settings and shapes that has just been started. Its routine is named by
drawing the first letter of ids at each place. -/
def initial : Build :=
  { settings := {}, shapes := .stock ({} : Settings).markerComment
    session :=
      { settings := {}, components := [], index := [], issued := ["aaaaaaaa".toList]
        routine := "_vpis_aaaaaaaa".toList } }

theorem withShapes_initial :
    withShapes (fun _ _ => 0) {} (.stock ({} : Settings).markerComment) = .ok initial := rfl

theorem Sound.of_withShapes {settings : Settings} {shapes : ShapeSet}
    (h : withShapes draw settings shapes = .ok b) : Sound b := by
  obtain ⟨rfl, hstart⟩ := eq_of_withShapes h
  exact of_start hstart

/-! ### Transforms -/

variable [Script.Reader]

theorem transform_of_not_isComponent (hroot : ModuleId.isComponent b.settings id = false)
    (draw : Draw) (code : Text) : b.transform draw code id = b.transformDependent code id := by
  rw [transform, hroot, if_neg Bool.false_ne_true]

/-- The answer to the transform of a root module in a build that has been told of it. -/
def rootAnswer (code : Text) (id : ModuleId) (m : Module) (b : Build) :
    Except Fault (Option Text) :=
  match b.shapes.detect m with
  | none => .ok none
  | some shape => (processModule id shape code id b).1

theorem transform_of_getOrCreate {s : Session} (hroot : ModuleId.isComponent b.settings id = true)
    (hm : Module.ofText code id = .ok m) {c : Component}
    (h : b.session.getOrCreate draw id = (.ok c, s)) :
    b.transform draw code id = (rootAnswer code id m (told id m s b), told id m s b) := by
  have hscript : ModuleId.isScript (told id m s b).settings id = true :=
    isScript_of_isComponent hroot
  have hshapes : (told id m s b).shapes = b.shapes := rfl
  rw [transform, if_pos hroot, transformRoot_of_opens hm h, rootAnswer, hshapes]
  cases b.shapes.detect m with
  | none => rfl
  | some shape =>
    dsimp only
    rw [processModule, if_pos hscript]
    split <;> rfl

theorem transform_root_cases (hroot : ModuleId.isComponent b.settings id = true) (draw : Draw)
    (code : Text) :
    (∃ fault, b.transform draw code id = (.error fault, b)) ∨
      ∃ m s, Module.ofText code id = .ok m ∧ b.session.Opens id s ∧
        b.transform draw code id = (rootAnswer code id m (told id m s b), told id m s b) := by
  cases hm : Module.ofText code id with
  | error fault =>
    refine Or.inl ⟨fault, ?_⟩
    rw [transform, if_pos hroot, transformRoot_of_unreadable hm]
  | ok m =>
    rcases hget : b.session.getOrCreate draw id with ⟨fault | c, s⟩
    · refine Or.inl ⟨fault, ?_⟩
      rw [transform, if_pos hroot, transformRoot_of_exhausted hm hget]
    · exact Or.inr ⟨m, s, rfl, Session.getOrCreate_eq_ok hget, transform_of_getOrCreate hroot hm hget⟩

theorem transform_of_isComponent (hroot : ModuleId.isComponent b.settings id = true) (draw : Draw)
    (code : Text) :
    (b.transform draw code id).2 = b ∨
      ∃ m s, Module.ofText code id = .ok m ∧ b.session.Opens id s ∧
        (b.transform draw code id).2 = told id m s b := by
  rcases transform_root_cases hroot draw code with ⟨fault, heq⟩ | ⟨m, s, hm, hs, heq⟩
  · exact Or.inl (by rw [heq])
  · exact Or.inr ⟨m, s, hm, hs, by rw [heq]⟩

namespace Sound

theorem transform_of_ownerOf (h : Sound b) (hroot : ModuleId.isComponent b.settings id = false)
    {c : Component} (howner : b.session.ownerOf id = some c) :
    ∃ known, (c.shape.bind fun tag => b.shapes.get? tag) = some known ∧
      b.transform draw code id = processModule c.path known code id b := by
  obtain ⟨_, known, hknown⟩ := h.of_ownerOf howner
  refine ⟨known, hknown, ?_⟩
  rw [transform_of_not_isComponent hroot, transformDependent, howner]
  simp only [hknown]

theorem transform_of_capturer? (h : Sound b) (hcapturer : b.capturer? id = some path) :
    b.transform draw code id
      = (.ok (some []),
          { b with
            session := b.session.update path (Component.recordStyle b.settings id code) }) := by
  obtain ⟨hroot, hscript, hstyle, c, howner, rfl⟩ := capturer?_eq_some_iff.mp hcapturer
  obtain ⟨known, _, htransform⟩ := h.transform_of_ownerOf hroot howner
  rw [htransform, processModule_style hscript hstyle (h.of_ownerOf howner).1]

theorem transform_dependent (h : Sound b) (hroot : ModuleId.isComponent b.settings id = false)
    (hcapturer : b.capturer? id = none) : (b.transform draw code id).2 = b := by
  cases howner : b.session.ownerOf id with
  | none => rw [transform_of_not_isComponent hroot, transformDependent, howner]
  | some c =>
    obtain ⟨known, _, htransform⟩ := h.transform_of_ownerOf hroot howner
    rw [htransform]
    cases hscript : ModuleId.isScript b.settings id with
    | true => rw [processModule_script hscript (h.of_ownerOf howner).1]
    | false =>
      cases hstyle : ModuleId.isStyle b.settings id with
      | true =>
        rw [capturer?_eq_some_iff.mpr ⟨hroot, hscript, hstyle, c, howner, rfl⟩] at hcapturer
        cases hcapturer
      | false => rw [processModule_other hscript hstyle]

/-- A transform changes nothing, lets a component learn from its root module, or captures a style
block. -/
theorem transform_cases (h : Sound b) (draw : Draw) (code : Text) (id : ModuleId) :
    (b.capturer? id = none ∧ (b.transform draw code id).2 = b) ∨
      (b.capturer? id = none ∧ ∃ m s, Module.ofText code id = .ok m ∧ b.session.Opens id s ∧
        (b.transform draw code id).2 = told id m s b) ∨
      ∃ path, b.capturer? id = some path ∧
        b.transform draw code id
          = (.ok (some []),
              { b with
                session := b.session.update path (Component.recordStyle b.settings id code) }) := by
  cases hcapturer : b.capturer? id with
  | some path => exact Or.inr (Or.inr ⟨path, rfl, h.transform_of_capturer? hcapturer⟩)
  | none =>
    cases hroot : ModuleId.isComponent b.settings id with
    | false => exact Or.inl ⟨rfl, h.transform_dependent hroot hcapturer⟩
    | true =>
      rcases transform_of_isComponent hroot draw code with heq | hlearn
      · exact Or.inl ⟨rfl, heq⟩
      · exact Or.inr (Or.inl ⟨rfl, hlearn⟩)

theorem transform (h : Sound b) (draw : Draw) (code : Text) (id : ModuleId) :
    Sound (b.transform draw code id).2 := by
  rcases h.transform_cases draw code id with
    ⟨_, heq⟩ | ⟨_, m, s, _, hs, heq⟩ | ⟨path, _, heq⟩
  · rwa [heq]
  · rw [heq]
    exact h.of_told hs
  · rw [heq]
    exact h.capture path id code

theorem perform (h : Sound b) (operation : Operation) : Sound (b.perform operation).2 := by
  cases operation with
  | restart draw =>
    change Sound (b.restart draw).2
    rw [restart]
    split
    · rename_i session hstart
      exact of_start hstart
    · exact h
  | transform draw code id => exact h.transform draw code id

end Sound

/-! ### Runs -/

def run (operations : List Operation) (b : Build) : Build :=
  operations.foldl (fun b operation => (b.perform operation).2) b

theorem Sound.run (h : Sound b) (operations : List Operation) : Sound (b.run operations) := by
  induction operations generalizing b with
  | nil => exact h
  | cons operation operations ih => exact ih (h.perform operation)

end Build

end ComponentStyles
