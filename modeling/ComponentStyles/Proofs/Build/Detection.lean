import ComponentStyles.Proofs.Build.History
import ComponentStyles.Proofs.Shape.Registration

/-!
# One detector for a component

The root module of a component is recognised by a detector that is found by what it supports; the other
modules of the component are given to the detector that is found by the tag in its record. These are one
and the same (`detector_of_root_and_dependents`): whatever has been registered, the detector that
recognised the root module last is the one that the tag leads to.

Proof. The tag in the record is that of the last reading of the root module that has one, and the shape
of that reading is found in its call (`exists_recognisedAs`, by induction from the end of the run). A
detector that recognises a module is a member of the set, and a member is found by its tag, as no two
members have one in common (`Detector.get?_tag_of_detect`).
-/

namespace ComponentStyles

namespace Build

variable {b started : Build} {draw : Draw} {path : ModuleId} {m : Module} {shape : Shape}
  {calls : List Call} {call : Call}

/-! ### What a run keeps -/

theorem shapes_of_withShapes {settings : Settings} {shapes : ShapeSet}
    (h : withShapes draw settings shapes = .ok b) : b.shapes = shapes := by
  rw [withShapes] at h
  cases hstart : Session.start draw settings with
  | error fault =>
    rw [hstart] at h
    cases h
  | ok session =>
    rw [hstart] at h
    obtain rfl := Except.ok.inj h
    rfl

section

variable [Script.Reader]

theorem Sound.shapes_transform (h : Sound b) (draw : Draw) (code : Text) (id : ModuleId) :
    (b.transform draw code id).2.shapes = b.shapes := by
  rcases h.transform_cases draw code id with ⟨_, heq⟩ | ⟨_, m, s, _, _, heq⟩ | ⟨path, _, heq⟩
  · rw [heq]
  · rw [heq, told]
  · rw [heq]

theorem Sound.shapes_transformAll (h : Sound b) (calls : List Call) :
    (b.transformAll calls).shapes = b.shapes := by
  induction calls generalizing b with
  | nil => rfl
  | cons call calls ih =>
    rw [transformAll_cons, ih (h.transform _ _ _), h.shapes_transform]

theorem completesRoot_of_mem_paths (h : Sound b)
    (hroot : ModuleId.isComponent b.settings call.id = true) (hknown : call.id ∈ b.session.paths)
    (hm : Module.ofText call.code call.id = .ok m) : call.completesRoot b = true := by
  obtain ⟨c, hc, hpath⟩ := Session.mem_paths_iff.mp hknown
  have hget : b.session.get? call.id = some c := h.registry.get?_eq_some_iff.mpr ⟨hc, hpath⟩
  have hfound := Session.getOrCreate_of_get? hget call.draw
  obtain ⟨answer, hanswer, _⟩ := h.exists_rootAnswer hroot hm (Session.getOrCreate_eq_ok hfound)
  rw [Call.completesRoot, hroot, transform_of_getOrCreate hroot hm hfound, hanswer]
  rfl

theorem mem_paths_of_isSome_entryOf
    (hstart : Session.start draw started.settings = .ok started.session) (calls : List Call)
    (h : (entryOf (readings calls started) path).2.1.isSome = true) :
    path ∈ (started.transformAll calls).session.paths := by
  obtain ⟨r, hr, hroot, _⟩ := (isSome_entryOf _ path).mp h
  rw [Session.paths, roster_eq_rosterOf hstart, map_fst_rosterOf]
  exact mem_roots.mpr ⟨r, hr, hroot⟩

/-! ### Recognition -/

/-- In a run from a build a root module is recognised as a shape and given to it, and in no later text
is it recognised again. -/
def RecognisedAs (started : Build) (calls : List Call) (path : ModuleId) (shape : Shape) : Prop :=
  ModuleId.isComponent started.settings path = true ∧
    ∃ earlier root later m after, calls = earlier ++ root :: later ∧ root.id = path ∧
      Module.ofText root.code path = .ok m ∧ started.shapes.detect m = some shape ∧
      (started.transformAll earlier).transform root.draw root.code path
        = ((processModule path shape root.code path after).1, after) ∧
      ∀ call ∈ later, call.id = path → ∀ m', Module.ofText call.code path = .ok m' →
        started.shapes.detect m' = none

theorem RecognisedAs.concat (h : started.RecognisedAs calls path shape)
    (hcall : call.id = path → ∀ m, Module.ofText call.code path = .ok m →
      started.shapes.detect m = none) :
    started.RecognisedAs (calls ++ [call]) path shape := by
  obtain ⟨hroot, earlier, root, later, m, after, rfl, hid, hm, hdetect, hanswer, hlater⟩ := h
  refine ⟨hroot, earlier, root, later ++ [call], m, after, by simp, hid, hm, hdetect, hanswer, ?_⟩
  intro other hother
  rcases List.mem_append.mp hother with hother | hother
  · exact hlater other hother
  · obtain rfl := List.mem_singleton.mp hother
    exact hcall

theorem recognisedAs_concat (h : Sound started)
    (hcall : call.completesRoot (started.transformAll calls) = true)
    (hm : Module.ofText call.code call.id = .ok m)
    (hdetect : started.shapes.detect m = some shape) :
    started.RecognisedAs (calls ++ [call]) call.id shape := by
  have hroot : ModuleId.isComponent started.settings call.id = true := by
    rw [Call.completesRoot, Bool.and_eq_true] at hcall
    exact settings_run _ started ▸ hcall.1
  obtain ⟨m', s, hm', _, _, heq⟩ := exists_reading?_of_completesRoot hcall
  obtain rfl : m = m' := Except.ok.inj (hm.symm.trans hm')
  have hshapes : (told call.id m s (started.transformAll calls)).shapes = started.shapes :=
    h.shapes_transformAll calls
  rw [rootAnswer, hshapes, hdetect] at heq
  exact ⟨hroot, calls, call, [], m, _, rfl, rfl, hm, hdetect, heq, by simp⟩

/-- The tag that readings leave behind is that of the shape that was recognised last. -/
theorem exists_recognisedAs
    (hstart : Session.start draw started.settings = .ok started.session) (calls : List Call)
    {name : String} (hname : (entryOf (readings calls started) path).2.1 = some name) :
    ∃ shape : Shape, shape.tag = name ∧ started.RecognisedAs calls path shape := by
  have hsound : Sound started := Sound.of_start hstart
  induction calls using List.reverseRecOn generalizing name with
  | nil => cases hname
  | append_singleton calls call ih =>
    cases hcall : call.completesRoot (started.transformAll calls) with
    | false =>
      have hsame : readings (calls ++ [call]) started = readings calls started := by
        rw [readings_append, readings, reading?_of_not_completesRoot hcall]
        exact List.append_nil _
      rw [hsame] at hname
      obtain ⟨shape, htag, hrecognised⟩ := ih hname
      refine ⟨shape, htag, hrecognised.concat ?_⟩
      rintro rfl m hm
      -- The component is known, so a text that can be read would have been read.
      have hknown : call.id ∈ (started.transformAll calls).session.paths :=
        mem_paths_of_isSome_entryOf hstart calls (hname ▸ rfl)
      have hroot : ModuleId.isComponent (started.transformAll calls).settings call.id = true :=
        (settings_run _ started).symm ▸ hrecognised.1
      have hcompletes := completesRoot_of_mem_paths (hsound.transformAll calls) hroot hknown hm
      rw [hcall] at hcompletes
      cases hcompletes
    | true =>
      obtain ⟨m, s, hm, _, hreading, _⟩ := exists_reading?_of_completesRoot hcall
      rw [hsound.shapes_transformAll calls] at hreading
      rw [readings_concat hreading, entryOf_concat] at hname
      by_cases hpath : path = call.id
      · subst hpath
        rw [Reading.of, if_pos rfl] at hname
        cases hdetect : started.shapes.detect m with
        | none =>
          rw [hdetect] at hname
          obtain ⟨shape, htag, hrecognised⟩ := ih hname
          refine ⟨shape, htag, hrecognised.concat ?_⟩
          intro _ m' hm'
          rwa [Except.ok.inj (hm'.symm.trans hm)]
        | some shape =>
          rw [hdetect] at hname
          exact ⟨shape, Option.some.inj hname, recognisedAs_concat hsound hcall hm hdetect⟩
      · have hother : Reading.root (.of started.shapes call.id m) = call.id := rfl
        rw [hother, if_neg hpath] at hname
        obtain ⟨shape, htag, hrecognised⟩ := ih hname
        exact ⟨shape, htag, hrecognised.concat fun hid => absurd hid.symm hpath⟩

theorem exists_recognisedAs_of_mem
    (hstart : Session.start draw started.settings = .ok started.session) (calls : List Call)
    {c : Component} (hc : c ∈ (started.transformAll calls).session.components) {name : String}
    (hname : c.shape = some name) :
    ∃ shape : Shape, shape.tag = name ∧ started.RecognisedAs calls c.path shape := by
  have hentry : Session.entry c ∈ rosterOf (readings calls started) := by
    rw [← roster_eq_rosterOf hstart, Session.roster_eq_map_entry]
    exact List.mem_map_of_mem hc
  obtain ⟨path, _, heq⟩ := List.mem_map.mp hentry
  have hpath : path = c.path := by
    rw [← entryOf_fst (readings calls started) path, heq]
    rfl
  apply exists_recognisedAs hstart calls
  rw [← hpath, heq]
  exact hname

theorem exists_recognisedAs_of_ownerOf {settings : Settings} {registered : List Shape}
    (hstarted : withShapes draw settings
      (registered.foldl (fun set shape => set.register shape) ShapeSet.empty) = .ok started)
    (calls : List Call) {id : ModuleId} {c : Component}
    (hid : ModuleId.isComponent settings id = false)
    (howner : (started.transformAll calls).session.ownerOf id = some c) :
    ∃ shape, started.RecognisedAs calls c.path shape ∧ c.shape = some shape.tag ∧
      started.shapes.get? shape.tag = some shape ∧
      ∀ draw code, (started.transformAll calls).transform draw code id
        = processModule c.path shape code id (started.transformAll calls) := by
  obtain ⟨rfl, hstart⟩ := eq_of_withShapes hstarted
  have hsound : Sound (started.transformAll calls) :=
    (Sound.of_withShapes hstarted).transformAll calls
  have hroot : ModuleId.isComponent (started.transformAll calls).settings id = false :=
    (settings_run _ started).symm ▸ hid
  have hshapes : (started.transformAll calls).shapes = started.shapes :=
    (Sound.of_withShapes hstarted).shapes_transformAll calls
  obtain ⟨_, known, hknown⟩ := hsound.of_ownerOf howner
  obtain ⟨name, hname, _⟩ := Option.bind_eq_some_iff.mp hknown
  obtain ⟨shape, rfl, hrecognised⟩ :=
    exists_recognisedAs_of_mem hstart calls (List.mem_of_find?_eq_some howner) hname
  have hfound : started.shapes.get? shape.tag = some shape := by
    obtain ⟨_, _, _, _, m, _, _, _, _, hdetect, _⟩ := hrecognised
    rw [shapes_of_withShapes hstarted, ShapeSet.detect, ShapeSet.shapes_foldl_register] at hdetect
    rw [shapes_of_withShapes hstarted, ShapeSet.get?, ShapeSet.shapes_foldl_register]
    exact Detector.get?_tag_of_detect registered hdetect
  refine ⟨shape, hrecognised, hname, hfound, ?_⟩
  intro draw code
  obtain ⟨known, hknown, htransform⟩ : ∃ known,
      (c.shape.bind fun tag => (started.transformAll calls).shapes.get? tag) = some known ∧
        (started.transformAll calls).transform draw code id
          = processModule c.path known code id (started.transformAll calls) :=
    hsound.transform_of_ownerOf hroot howner
  rw [hname, Option.bind_some, hshapes, hfound] at hknown
  rw [htransform, Option.some.inj hknown]

/-- Whatever has been registered, the members of a set have one tag each, in the order in which these
came first, a tag finds what was registered last with it, and what recognises a module is found by its
tag. So in a build with registered shapes the tag in the record of a component leads its modules to the
shape as which its root module was recognised last. -/
theorem detector_of_root_and_dependents :
    (∀ (α : Type) [Detector α] (registered : List α),
      let set := Detector.registerAll registered
      (Detector.tags set).Nodup ∧ Detector.tags set = (Detector.tags registered).eraseDups ∧
        (∀ name,
          Detector.get? name set = (registered.filter fun d => Detector.tag d = name).getLast? ∧
            (Detector.get? name set = none ↔ name ∉ Detector.tags registered)) ∧
        ∀ m d,
          (Detector.detect m set = some d ↔ Detector.supports d m = true ∧
            ∃ before after, set = before ++ d :: after ∧
              ∀ e ∈ before, Detector.supports e m = false) ∧
          (Detector.detect m set = some d → Detector.get? (Detector.tag d) set = some d)) ∧
    ∀ (registered : List Shape) (draw : Draw) (settings : Settings) (started : Build),
      let set := registered.foldl (fun set shape => set.register shape) ShapeSet.empty
      withShapes draw settings set = .ok started →
      ∀ (calls : List Call) (id : ModuleId) (c : Component),
        let b := started.transformAll calls
        ModuleId.isComponent settings id = false → b.session.ownerOf id = some c →
          ∃ shape, started.RecognisedAs calls c.path shape ∧ c.shape = some shape.tag ∧
            set.get? shape.tag = some shape ∧
            ∀ draw code, b.transform draw code id = processModule c.path shape code id b := by
  constructor
  · intro α _ registered set
    refine ⟨Detector.nodup_tags_registerAll registered, Detector.tags_registerAll registered, ?_, ?_⟩
    · intro name
      exact ⟨Detector.get?_registerAll registered name, Detector.get?_registerAll_eq_none_iff⟩
    · intro m d
      exact ⟨Detector.detect_eq_some_iff, Detector.get?_tag_of_detect registered⟩
  · intro registered draw settings started set hstarted calls id c b hid howner
    have hshared := exists_recognisedAs_of_ownerOf hstarted calls hid howner
    rwa [shapes_of_withShapes hstarted] at hshared

end

/-- A marker replaces the one that was registered before it, in its place. A root module with the new one
leads a script that it imports to it. -/
theorem detector_of_root_and_dependents_replaced :
    let registered : List Shape :=
      [.inlineRender, .marked "@old".toList, .importedRender, .marked "@here".toList]
    let set := registered.foldl (fun set shape => set.register shape) ShapeSet.empty
    let started := { initial with shapes := set }
    let root : Call :=
      { draw := fun _ _ => 1, code := "import './x.js'; /* @here */".toList, id := "/A.vue".toList }
    let b := started.transformAll [root]
    set.tags = ["sfc", "marker", "classComponent"] ∧
      withShapes (fun _ _ => 0) {} set = .ok started ∧
      ∃ c, b.session.ownerOf "/x.js".toList = some c ∧
        started.RecognisedAs [root] c.path (.marked "@here".toList) ∧
        ∀ draw code, b.transform draw code "/x.js".toList
          = processModule c.path (.marked "@here".toList) code "/x.js".toList b := by
  intro registered set started root b
  have hstarted : withShapes (fun _ _ => 0) {} set = .ok started := rfl
  have howned : ((b.session.ownerOf "/x.js".toList).bind fun c => c.shape) = some "marker" := by
    decide +kernel
  obtain ⟨c, howner, hmarker⟩ := Option.bind_eq_some_iff.mp howned
  obtain ⟨shape, hrecognised, hshape, hfound, htransform⟩ :=
    detector_of_root_and_dependents.2 registered _ _ started hstarted [root] "/x.js".toList c
      (by decide) howner
  have htag : shape.tag = "marker" := Option.some.inj (hshape.symm.trans hmarker)
  rw [htag] at hfound
  obtain rfl : Shape.marked "@here".toList = shape := Option.some.inj hfound
  exact ⟨by decide +kernel, hstarted, c, howner, hrecognised, htransform⟩

end Build

end ComponentStyles
