import ComponentStyles.Proofs.Build.Owner
import ComponentStyles.Proofs.Build.Styles
import ComponentStyles.Proofs.Component.Literal

/-!
# The order of dependent modules

A host transforms the modules of a program in any order. For modules that are no root modules the
order does not matter (`transformAll_reordered`): if the modules of each component keep their order
among themselves, then each call has the same answer and the build is the same in the end.

Proof. Such a call changes the style texts of one component at most. Without the style texts the
build is as before (`bare_transformDependent`), and answers do not depend on them
(`transformDependent_bare`), so each call is answered as if it were the first one
(`answers_dependents`). In the end each component has the texts of its own style blocks, in the
order of their calls, on top of those that it had before (`transformAll_dependents`).
-/

namespace ComponentStyles

/-! ### Sessions without their style texts -/

/-- The component without its style texts. -/
def Component.bare (c : Component) : Component :=
  { c with css := [] }

theorem Component.bare_recordStyles (settings : Settings) (blocks : List (ModuleId × Text))
    (c : Component) : (c.recordStyles settings blocks).bare = c.bare := by
  induction blocks generalizing c with
  | nil => rfl
  | cons block blocks ih => exact ih (c.recordStyle settings block.1 block.2)

theorem Shape.process_bare [Script.Reader] (shape : Shape) (routine : Text) (c : Component)
    (id : ModuleId) (code : Text) :
    shape.process routine c.bare id code = shape.process routine c id code := rfl

namespace Session

def mapComponents (change : Component → Component) (s : Session) : Session :=
  { s with components := s.components.map change }

variable {s : Session} {path : ModuleId} {change : Component → Component}

theorem mapComponents_mapComponents (f g : Component → Component) (s : Session) :
    (s.mapComponents f).mapComponents g = s.mapComponents fun c => g (f c) := by
  rw [mapComponents, mapComponents, mapComponents, List.map_map]
  rfl

theorem mapComponents_id (s : Session) : (s.mapComponents fun c => c) = s := by
  rw [mapComponents, List.map_id']

theorem Registry.update_eq_mapComponents (h : Registry s) (path : ModuleId)
    (change : Component → Component) :
    s.update path change = s.mapComponents fun c => if c.path = path then change c else c := by
  rw [update_eq_with, h.components_update, mapComponents]

def bare (s : Session) : Session :=
  s.mapComponents Component.bare

theorem ownerOf_bare (id : ModuleId) (s : Session) :
    s.bare.ownerOf id = (s.ownerOf id).map Component.bare := by
  rw [ownerOf, bare, mapComponents, List.find?_map]
  rfl

theorem get?_bare (path : ModuleId) (s : Session) :
    s.bare.get? path = (s.get? path).map Component.bare := by
  have hposition : s.bare.position? path = s.position? path := rfl
  rw [get?, get?, hposition, Option.map_bind]
  congr 1
  funext i
  exact List.getElem?_map

theorem bare_update (hchange : ∀ c, (change c).bare = c.bare) :
    (s.update path change).bare = s.bare := by
  rw [update_eq_with, bare, mapComponents, map_update hchange]
  rfl

end Session

namespace Build

variable {b b' : Build} {id path : ModuleId} {code : Text}

/-! ### Builds without their style texts -/

def bare (b : Build) : Build :=
  { b with session := b.session.bare }

theorem session_bare (b : Build) : b.bare.session = b.session.bare := rfl

theorem settings_eq_of_bare_eq (h : b'.bare = b.bare) : b'.settings = b.settings := by
  have hsettings := congrArg Build.settings h
  exact hsettings

theorem capturer?_bare (id : ModuleId) (b : Build) : b.bare.capturer? id = b.capturer? id := by
  rw [capturer?, capturer?, session_bare, Session.ownerOf_bare, Option.map_map]
  rfl

theorem capturer?_of_bare_eq (h : b'.bare = b.bare) (id : ModuleId) :
    b'.capturer? id = b.capturer? id := by
  rw [← capturer?_bare, h, capturer?_bare]

theorem owner?_bare (id : ModuleId) (b : Build) : b.bare.owner? id = b.owner? id := by
  rw [owner?, owner?, session_bare, Session.ownerOf_bare, Option.map_map]
  rfl

/-! ### What calls are for -/

def Call.request (call : Call) : ModuleId × Text :=
  (call.id, call.code)

/-- The style blocks that calls are for and that are captured for the component of a file. -/
def blocksFor (path : ModuleId) (calls : List Call) (b : Build) : List (ModuleId × Text) :=
  (calls.map Call.request).filter fun request => b.capturer? request.1 = some path

theorem blocksFor_cons (path : ModuleId) (call : Call) (calls : List Call) (b : Build) :
    b.blocksFor path (call :: calls)
      = if b.capturer? call.id = some path then call.request :: b.blocksFor path calls
        else b.blocksFor path calls := by
  rw [blocksFor, List.map_cons, List.filter_cons]
  simp only [decide_eq_true_eq]
  rfl

theorem blocksFor_of_bare_eq (h : b'.bare = b.bare) (path : ModuleId) (calls : List Call) :
    b'.blocksFor path calls = b.blocksFor path calls := by
  simp only [blocksFor, capturer?_of_bare_eq h]

/-- The requests of calls for the modules of the component of a file, in their order. -/
def requestsOf (path : ModuleId) (calls : List Call) (b : Build) : List (ModuleId × Text) :=
  (calls.map Call.request).filter fun request => b.owner? request.1 = some path

/-- Two lists of calls with the same requests, in which the requests for each component stand in the
same order. -/
structure Reorders (b : Build) (calls calls' : List Call) : Prop where
  perm : (calls.map Call.request).Perm (calls'.map Call.request)
  kept : ∀ path, b.requestsOf path calls = b.requestsOf path calls'

theorem requestsOf_eq_nil_iff {calls : List Call} :
    b.requestsOf path calls = [] ↔
      ∀ request ∈ calls.map Call.request, b.owner? request.1 ≠ some path := by
  rw [requestsOf, List.filter_eq_nil_iff]
  simp only [decide_eq_true_eq, ne_eq]

theorem reorders_iff {calls calls' : List Call} :
    Reorders b calls calls' ↔
      (calls.map Call.request).Perm (calls'.map Call.request) ∧
        ∀ path ∈ (calls.map Call.request).filterMap fun request => b.owner? request.1,
          b.requestsOf path calls = b.requestsOf path calls' := by
  refine ⟨fun h => ⟨h.perm, fun path _ => h.kept path⟩, fun ⟨hperm, hkept⟩ => ⟨hperm, ?_⟩⟩
  intro path
  by_cases howned : path ∈ (calls.map Call.request).filterMap fun request => b.owner? request.1
  · exact hkept path howned
  · have hnone : ∀ request ∈ calls.map Call.request, b.owner? request.1 ≠ some path :=
      fun request hrequest howner => howned (List.mem_filterMap.mpr ⟨request, hrequest, howner⟩)
    rw [requestsOf_eq_nil_iff.mpr hnone, requestsOf_eq_nil_iff.mpr fun request hrequest =>
      hnone request (hperm.mem_iff.mpr hrequest)]

instance (b : Build) (calls calls' : List Call) : Decidable (Reorders b calls calls') :=
  decidable_of_iff' _ reorders_iff

theorem capturer?_eq_none_or (id : ModuleId) (b : Build) :
    b.capturer? id = none ∨ b.capturer? id = b.owner? id := by
  rw [capturer?, owner?]
  split
  · exact Or.inl rfl
  · exact Or.inr rfl

theorem blocksFor_eq_filter (path : ModuleId) (calls : List Call) (b : Build) :
    b.blocksFor path calls
      = (b.requestsOf path calls).filter fun request => (b.capturer? request.1).isSome := by
  rw [blocksFor, requestsOf, List.filter_filter]
  refine List.filter_congr fun request _ => ?_
  rcases capturer?_eq_none_or request.1 b with hnone | howner
  · simp [hnone]
  · rw [howner]
    cases b.owner? request.1 <;> simp

/-! ### Calls for dependent modules -/

section

variable [Script.Reader]

theorem processModule_bare (path : ModuleId) (shape : Shape) (code : Text) (id : ModuleId)
    (b : Build) :
    (processModule path shape code id b.bare).1 = (processModule path shape code id b).1 := by
  have hsettings : b.bare.settings = b.settings := rfl
  rw [processModule, processModule, hsettings, session_bare, Session.get?_bare]
  cases ModuleId.isScript b.settings id with
  | true =>
    cases b.session.get? path with
    | none => rfl
    | some c => exact congrArg (some <$> ·) (shape.process_bare b.session.routine c id code)
  | false =>
    cases ModuleId.isStyle b.settings id with
    | true => cases b.session.get? path <;> rfl
    | false => rfl

theorem bare_processModule (path : ModuleId) (shape : Shape) (code : Text) (id : ModuleId)
    (b : Build) : (processModule path shape code id b).2.bare = b.bare := by
  rw [processModule]
  split
  · split <;> rfl
  · split
    · have hupdate : (b.session.update path (Component.recordStyle b.settings id code)).bare
          = b.session.bare := Session.bare_update fun _ => rfl
      exact congrArg (fun session => { b with session }) hupdate
    · rfl

theorem transformDependent_bare (code : Text) (id : ModuleId) (b : Build) :
    (transformDependent code id b.bare).1 = (transformDependent code id b).1 := by
  rw [transformDependent, transformDependent, session_bare, Session.ownerOf_bare]
  cases b.session.ownerOf id with
  | none => rfl
  | some owner =>
    have hshape : (owner.bare.shape.bind fun tag => b.bare.shapes.get? tag)
        = owner.shape.bind fun tag => b.shapes.get? tag := rfl
    rw [Option.map_some]
    dsimp only
    rw [hshape]
    cases owner.shape.bind fun tag => b.shapes.get? tag with
    | none => rfl
    | some shape => exact processModule_bare owner.path shape code id b

theorem bare_transformDependent (code : Text) (id : ModuleId) (b : Build) :
    (transformDependent code id b).2.bare = b.bare := by
  rw [transformDependent]
  split
  · rfl
  · split
    · exact bare_processModule _ _ code id b
    · rfl

/-! ### Answers -/

def answers : List Call → Build → List (Except Fault (Option Text))
  | [], _ => []
  | call :: calls, b =>
    (b.transform call.draw call.code call.id).1 ::
      answers calls (b.transform call.draw call.code call.id).2

theorem answers_dependents {calls : List Call}
    (hdependent : ∀ call ∈ calls, ModuleId.isComponent b.settings call.id = false) :
    b.answers calls = calls.map fun call => (b.transformDependent call.code call.id).1 := by
  induction calls generalizing b with
  | nil => rfl
  | cons call calls ih =>
    have htransform := transform_of_not_isComponent (hdependent call List.mem_cons_self) call.draw
      call.code
    have hbare := bare_transformDependent call.code call.id b
    have hlater : ∀ later ∈ calls, ModuleId.isComponent
        (b.transformDependent call.code call.id).2.settings later.id = false := by
      intro later hmem
      rw [settings_eq_of_bare_eq hbare]
      exact hdependent later (List.mem_cons_of_mem call hmem)
    rw [answers, htransform, List.map_cons, ih hlater]
    congr 1
    refine List.map_congr_left fun later _ => ?_
    rw [← transformDependent_bare, hbare, transformDependent_bare]

/-! ### The build in the end -/

/-- Behind calls for modules that are no root modules, each component has the texts of its style
blocks in the order of their calls, and nothing else has changed. -/
theorem transformAll_dependents (h : Sound b) {calls : List Call}
    (hdependent : ∀ call ∈ calls, ModuleId.isComponent b.settings call.id = false) :
    b.transformAll calls
      = { b with
          session := b.session.mapComponents fun c =>
            Component.recordStyles b.settings (b.blocksFor c.path calls) c } := by
  induction calls generalizing b with
  | nil => exact congrArg (fun session => { b with session }) b.session.mapComponents_id.symm
  | cons call calls ih =>
    have hroot := hdependent call List.mem_cons_self
    have hlater : ∀ later ∈ calls, ModuleId.isComponent b.settings later.id = false :=
      fun later hmem => hdependent later (List.mem_cons_of_mem call hmem)
    rw [transformAll_cons]
    cases hcapturer : b.capturer? call.id with
    | none =>
      have hblocks : ∀ path, b.blocksFor path (call :: calls) = b.blocksFor path calls := by
        intro path
        rw [blocksFor_cons, hcapturer, if_neg (by simp)]
      rw [h.transform_dependent hroot hcapturer, ih h hlater]
      simp only [hblocks]
    | some path =>
      -- the texts change, but not which blocks the calls to come are for
      have hbare : (b.transform call.draw call.code call.id).2.bare = b.bare := by
        rw [transform_of_not_isComponent hroot]
        exact bare_transformDependent call.code call.id b
      have hsettings := settings_eq_of_bare_eq hbare
      have hstep : (b.transform call.draw call.code call.id).2
          = { b with
              session := b.session.mapComponents fun c =>
                if c.path = path then Component.recordStyle b.settings call.id call.code c
                else c } := by
        rw [h.transform_of_capturer? hcapturer, h.registry.update_eq_mapComponents]
      rw [ih (h.transform _ _ _) (hsettings ▸ hlater)]
      simp only [blocksFor_of_bare_eq hbare, hsettings]
      rw [hstep, Session.mapComponents_mapComponents]
      congr 2
      funext c
      rw [blocksFor_cons, hcapturer]
      by_cases hpath : c.path = path
      · rw [if_pos hpath, if_pos (congrArg some hpath.symm)]
        rfl
      · rw [if_neg hpath, if_neg fun heq => hpath (Option.some.inj heq).symm]

theorem owner?_dependents (h : Sound b) {calls : List Call}
    (hdependent : ∀ call ∈ calls, ModuleId.isComponent b.settings call.id = false)
    (id : ModuleId) : (b.transformAll calls).owner? id = b.owner? id := by
  have hbare : (b.transformAll calls).bare = b.bare := by
    rw [transformAll_dependents h hdependent, bare, Session.bare,
      Session.mapComponents_mapComponents]
    simp only [Component.bare_recordStyles]
    rfl
  rw [← owner?_bare, hbare, owner?_bare]

/-- Calls for modules that are no root modules may be made in any order that keeps the order of those
for each component. Each call has the same answer, whatever random choices are made, and the build is
the same in the end, with the same bundle. Owners are those from the start all the while. -/
theorem transformAll_reordered {draw : Draw} {settings : Settings} {shapes : ShapeSet}
    {started : Build} (hstart : withShapes draw settings shapes = .ok started)
    (operations : List Operation) {calls calls' : List Call}
    (hdependent : ∀ call ∈ calls, ModuleId.isComponent settings call.id = false)
    (hreorders : Reorders (started.run operations) calls calls') :
    let b := started.run operations
    (∃ answer : ModuleId × Text → Except Fault (Option Text),
        b.answers calls = calls.map (fun call => answer call.request) ∧
          b.answers calls' = calls'.map fun call => answer call.request) ∧
      b.transformAll calls = b.transformAll calls' ∧
      (∀ id, (b.transformAll calls).owner? id = b.owner? id) ∧
      ∀ chunks,
        (b.transformAll calls).finishBundle chunks = (b.transformAll calls').finishBundle chunks := by
  intro b
  have hstarted : Sound started := Sound.of_withShapes hstart
  have hsound : Sound b := hstarted.run operations
  have hsettings : b.settings = settings :=
    (settings_run operations started).trans (eq_of_withShapes hstart).1
  rw [← hsettings] at hdependent
  have hdependent' : ∀ call ∈ calls', ModuleId.isComponent b.settings call.id = false := by
    intro call hcall
    have hrequest : call.request ∈ calls.map Call.request :=
      hreorders.perm.mem_iff.mpr (List.mem_map_of_mem hcall)
    obtain ⟨same, hsame, heq⟩ := List.mem_map.mp hrequest
    have hid : same.id = call.id := (Prod.mk.inj heq).1
    exact hid ▸ hdependent same hsame
  have hblocks : ∀ path, b.blocksFor path calls = b.blocksFor path calls' := by
    intro path
    rw [blocksFor_eq_filter, hreorders.kept, ← blocksFor_eq_filter]
  have hbuild : b.transformAll calls = b.transformAll calls' := by
    rw [transformAll_dependents hsound hdependent, transformAll_dependents hsound hdependent']
    simp only [hblocks]
  refine ⟨⟨fun request => (b.transformDependent request.2 request.1).1, ?_, ?_⟩, hbuild,
    owner?_dependents hsound hdependent, fun chunks => by rw [hbuild]⟩
  · exact answers_dependents hdependent
  · exact answers_dependents hdependent'

end

/-- Two components with a style block each, and a script of the first one that cannot be read. The
second text of the one block stays behind its first one, and everything else changes places. -/
theorem transformAll_reordered_interleaved :
    let call (place : Fin 36) (code id : String) : Call :=
      { draw := fun _ _ => place, code := code.toList, id := id.toList }
    let operations := [
      (call 1 "import './a?lang.css'; import './a?lang.js'; function _sfc_render() \x7b\x7d"
        "/A.vue").operation,
      (call 2 "import './b?lang.css'; function _sfc_render() \x7b\x7d" "/B.vue").operation]
    let calls := [call 3 "p" "/a?lang.css", call 3 "q" "/b?lang.css", call 3 "(" "/a?lang.js",
      call 3 "r" "/a?lang.css", call 3 "s" "/c?lang.css"]
    let calls' := [call 4 "s" "/c?lang.css", call 4 "p" "/a?lang.css", call 4 "(" "/a?lang.js",
      call 4 "r" "/a?lang.css", call 4 "q" "/b?lang.css"]
    let b := initial.run operations
    withShapes (fun _ _ => 0) {} (.stock ({} : Settings).markerComment) = .ok initial ∧
      (∀ call ∈ calls, ModuleId.isComponent {} call.id = false) ∧
      Reorders b calls calls' ∧ b.transformAll calls = b.transformAll calls' ∧
      (b.transformAll calls').session.styleTexts
        = [("/A.vue".toList, [("/a".toList, "r".toList)]),
            ("/B.vue".toList, [("/b".toList, "q".toList)])] := by
  intro call operations calls calls' b
  have hdependent : ∀ call ∈ calls, ModuleId.isComponent {} call.id = false := by
    decide +kernel
  have hreorders : Reorders b calls calls' := by decide +kernel
  exact ⟨withShapes_initial, hdependent, hreorders,
    (transformAll_reordered withShapes_initial operations hdependent hreorders).2.1,
    by decide +kernel⟩

end Build

end ComponentStyles
