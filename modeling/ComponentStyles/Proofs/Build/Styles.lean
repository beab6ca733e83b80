import ComponentStyles.Proofs.Build.Run

/-!
# The style texts of a run

A style block that is captured is left empty in its module, so its text has to be with a component
when the bundle is finished. It is (`styles_of_run`): in every build that a run leads to, the texts
of a component are those of the style blocks captured for it since the last start, put under their
keys one after the other (`Collected`).

Proof. A transform that captures nothing leaves all texts as they are, and may add a component
without any at the end (`styleTexts_of_not_captured`). One that does capture puts one text under its
key, for one component (`styleTexts_of_captured`). The list of what has been captured grows by the
same step, and the rest is an induction over the run.
-/

namespace ComponentStyles

namespace Session

variable {s s' : Session} {path : ModuleId}

def styleTexts (s : Session) : List (ModuleId × List (Text × Text)) :=
  s.components.map fun c => (c.path, c.css)

theorem Registry.styleTexts_opens (h : Registry s) (hs : s.Opens path s') :
    s'.styleTexts = s.styleTexts ∨
      (∀ entry ∈ s.styleTexts, entry.1 ≠ path) ∧ s'.styleTexts = s.styleTexts ++ [(path, [])] := by
  rcases hs with ⟨c, _, rfl⟩ | ⟨id, _, hnone, rfl⟩
  · exact Or.inl rfl
  · refine Or.inr ⟨?_, ?_⟩
    · intro entry hentry
      obtain ⟨c, hc, rfl⟩ := List.mem_map.mp hentry
      exact h.get?_eq_none_iff.mp hnone c hc
    · rw [styleTexts, Session.created, List.map_append]
      rfl

end Session

namespace Build

variable {b : Build} {id path : ModuleId}

/-! ### What has been captured -/

structure Capture where
  /-- The file of the component that it is for. -/
  path : ModuleId
  id : ModuleId
  text : Text

/-- What has been captured since the last start, behind one more operation. -/
def noteCapture (operation : Operation) (b : Build) (log : List Capture) : List Capture :=
  match operation with
  | .restart draw =>
    match (b.restart draw).1 with
    | .ok _ => []
    | .error _ => log
  | .transform _ code id =>
    match b.capturer? id with
    | some path => log ++ [⟨path, id, code⟩]
    | none => log

/-- The texts captured for the component of a file, with their keys. -/
def capturedFor (settings : Settings) (path : ModuleId) (log : List Capture) : List (Text × Text) :=
  (log.filter fun capture => capture.path = path).map fun capture =>
    (ModuleId.styleKey settings capture.id, Component.escapeStyle capture.text)

theorem capturedFor_append (settings : Settings) (path : ModuleId) (log : List Capture)
    (capture : Capture) :
    capturedFor settings path (log ++ [capture])
      = capturedFor settings path log ++
          if capture.path = path then
            [(ModuleId.styleKey settings capture.id, Component.escapeStyle capture.text)]
          else [] := by
  rw [capturedFor, List.filter_append, List.map_append, List.filter_singleton]
  by_cases hpath : capture.path = path
  · simp [hpath, capturedFor]
  · simp [hpath, capturedFor]

/-- The texts behind a style block that is captured for the component of a file. -/
def putStyle (settings : Settings) (path id : ModuleId) (text : Text)
    (texts : List (ModuleId × List (Text × Text))) : List (ModuleId × List (Text × Text)) :=
  texts.map fun entry =>
    if entry.1 = path then
      (path, Component.putText (ModuleId.styleKey settings id) (Component.escapeStyle text) entry.2)
    else entry

/-- The style blocks that have been captured are with the components that they are for, and nothing
else is. -/
structure Collected (settings : Settings) (log : List Capture)
    (texts : List (ModuleId × List (Text × Text))) : Prop where
  known : ∀ capture ∈ log, ∃ entry ∈ texts, entry.1 = capture.path
  stored : ∀ entry ∈ texts, Component.StoredBy (capturedFor settings entry.1 log) entry.2

namespace Collected

variable {settings : Settings} {log : List Capture} {texts : List (ModuleId × List (Text × Text))}

theorem nil : Collected settings [] [] :=
  ⟨fun _ h => absurd h List.not_mem_nil, fun _ h => absurd h List.not_mem_nil⟩

theorem capturedFor_eq_nil (h : Collected settings log texts)
    (hnew : ∀ entry ∈ texts, entry.1 ≠ path) : capturedFor settings path log = [] := by
  rw [capturedFor, List.map_eq_nil_iff, List.filter_eq_nil_iff]
  intro capture hcapture hpath
  obtain ⟨entry, hentry, heq⟩ := h.known capture hcapture
  exact hnew entry hentry (heq.trans (of_decide_eq_true hpath))

theorem create (h : Collected settings log texts) (hnew : ∀ entry ∈ texts, entry.1 ≠ path) :
    Collected settings log (texts ++ [(path, [])]) where
  known capture hcapture := by
    obtain ⟨entry, hentry, hpath⟩ := h.known capture hcapture
    exact ⟨entry, List.mem_append_left _ hentry, hpath⟩
  stored entry hentry := by
    rcases List.mem_append.mp hentry with hold | hfresh
    · exact h.stored entry hold
    · rw [List.mem_singleton.mp hfresh, h.capturedFor_eq_nil hnew]
      exact Component.StoredBy.nil

theorem putStyle (h : Collected settings log texts) (hpath : ∃ entry ∈ texts, entry.1 = path)
    (id : ModuleId) (text : Text) :
    Collected settings (log ++ [⟨path, id, text⟩]) (putStyle settings path id text texts) where
  known capture hcapture := by
    have hentry : ∃ entry ∈ texts, entry.1 = capture.path := by
      rcases List.mem_append.mp hcapture with hold | hnew
      · exact h.known capture hold
      · rw [List.mem_singleton.mp hnew]
        exact hpath
    obtain ⟨entry, hentry, heq⟩ := hentry
    refine ⟨_, List.mem_map_of_mem hentry, ?_⟩
    split
    · rename_i hsame
      exact hsame.symm.trans heq
    · exact heq
  stored entry' hentry' := by
    obtain ⟨entry, hentry, rfl⟩ := List.mem_map.mp hentry'
    have hstored := h.stored entry hentry
    rw [capturedFor_append]
    by_cases hsame : entry.1 = path
    · rw [if_pos hsame, if_pos rfl, ← hsame]
      exact hstored.putText _ _
    · rw [if_neg hsame, if_neg (Ne.symm hsame), List.append_nil]
      exact hstored

end Collected

/-! ### One transform -/

section

variable [Script.Reader]

theorem styleTexts_of_not_captured (h : Sound b) (hcapturer : b.capturer? id = none) (draw : Draw)
    (code : Text) :
    (b.transform draw code id).2.session.styleTexts = b.session.styleTexts ∨
      (∀ entry ∈ b.session.styleTexts, entry.1 ≠ id) ∧
        (b.transform draw code id).2.session.styleTexts = b.session.styleTexts ++ [(id, [])] := by
  rcases h.transform_cases draw code id with
    ⟨_, heq⟩ | ⟨_, m, s, _, hs, heq⟩ | ⟨path, hsome, _⟩
  · exact Or.inl (by rw [heq])
  · have hlearn : (told id m s b).session.styleTexts = s.styleTexts :=
      Session.map_update (fun c => by rw [(amends_learn id m _).path, css_learn]) s id
    rw [heq, hlearn]
    exact h.registry.styleTexts_opens hs
  · rw [hcapturer] at hsome
    cases hsome

theorem styleTexts_of_captured (h : Sound b) (hcapturer : b.capturer? id = some path) (draw : Draw)
    (code : Text) :
    (b.transform draw code id).2.session.styleTexts
      = putStyle b.settings path id code b.session.styleTexts := by
  rw [h.transform_of_capturer? hcapturer, Session.styleTexts, h.registry.components_update,
    putStyle, Session.styleTexts, List.map_map, List.map_map]
  apply List.map_congr_left
  intro c _
  by_cases hpath : c.path = path
  · simp only [Function.comp_apply, if_pos hpath]
    rw [← hpath]
    rfl
  · simp only [Function.comp_apply, if_neg hpath]

/-! ### Runs -/

/-- What has been captured since the last start, behind a run. -/
def captures : List Operation → Build → List Capture → List Capture
  | [], _, log => log
  | operation :: operations, b, log =>
    captures operations (b.perform operation).2 (noteCapture operation b log)

theorem settings_transformDependent (code : Text) (id : ModuleId) (b : Build) :
    (transformDependent code id b).2.settings = b.settings := by
  rw [transformDependent]
  split
  · rfl
  · split
    · rw [processModule]
      split
      · split <;> rfl
      · split <;> rfl
    · rfl

theorem settings_perform (operation : Operation) (b : Build) :
    (b.perform operation).2.settings = b.settings := by
  cases operation with
  | restart draw =>
    change (b.restart draw).2.settings = b.settings
    rw [restart]
    split <;> rfl
  | transform draw code id =>
    change (b.transform draw code id).2.settings = b.settings
    cases hroot : ModuleId.isComponent b.settings id with
    | false =>
      rw [transform_of_not_isComponent hroot]
      exact settings_transformDependent code id b
    | true =>
      rcases transform_of_isComponent hroot draw code with heq | ⟨m, s, _, _, heq⟩
      · rw [heq]
      · rw [heq, told]

theorem settings_run (operations : List Operation) (b : Build) :
    (b.run operations).settings = b.settings := by
  induction operations generalizing b with
  | nil => rfl
  | cons operation operations ih => exact (ih _).trans (settings_perform operation b)

theorem Collected.perform {log : List Capture} (h : Collected b.settings log b.session.styleTexts)
    (hsound : Sound b) (operation : Operation) :
    Collected b.settings (noteCapture operation b log)
      (b.perform operation).2.session.styleTexts := by
  cases operation with
  | restart draw =>
    change Collected _ _ (b.restart draw).2.session.styleTexts
    rw [noteCapture, restart]
    cases hstart : Session.start draw b.settings with
    | error fault => exact h
    | ok session =>
      obtain ⟨_, _, hnone⟩ := Session.Registry.start hstart
      dsimp only
      rw [Session.styleTexts, hnone]
      exact Collected.nil
  | transform draw code id =>
    change Collected _ _ (b.transform draw code id).2.session.styleTexts
    rw [noteCapture]
    cases hcapturer : b.capturer? id with
    | some path =>
      obtain ⟨_, _, _, c, howner, rfl⟩ := capturer?_eq_some_iff.mp hcapturer
      have hc : c ∈ b.session.components := List.mem_of_find?_eq_some howner
      rw [styleTexts_of_captured hsound hcapturer]
      exact h.putStyle ⟨(c.path, c.css), List.mem_map_of_mem hc, rfl⟩ id code
    | none =>
      rcases styleTexts_of_not_captured hsound hcapturer draw code with heq | ⟨hnew, heq⟩
      · rw [heq]
        exact h
      · rw [heq]
        exact h.create hnew

theorem Collected.run {log : List Capture} (h : Collected b.settings log b.session.styleTexts)
    (hsound : Sound b) (operations : List Operation) :
    Collected b.settings (captures operations b log) (b.run operations).session.styleTexts := by
  induction operations generalizing b log with
  | nil => exact h
  | cons operation operations ih =>
    have hnext := h.perform hsound operation
    rw [← settings_perform operation b] at hnext ⊢
    exact ih hnext (hsound.perform operation)

/-- In every build that a run leads to, the texts of a component are those of the style blocks
captured for it. Each style block that is captured is left empty in its module, and no other
transform changes the texts of a component; it may create one without texts. -/
theorem styles_of_run {draw : Draw} {settings : Settings} {shapes : ShapeSet} {started : Build}
    (hstart : withShapes draw settings shapes = .ok started) (operations : List Operation) :
    let b := started.run operations
    Collected settings (captures operations started []) b.session.styleTexts ∧
      ∀ draw code id,
        (∀ path, b.capturer? id = some path → (b.transform draw code id).1 = .ok (some [])) ∧
        (b.capturer? id = none →
          (b.transform draw code id).2.session.styleTexts = b.session.styleTexts ∨
            (∀ entry ∈ b.session.styleTexts, entry.1 ≠ id) ∧
              (b.transform draw code id).2.session.styleTexts
                = b.session.styleTexts ++ [(id, [])]) := by
  intro b
  have hstarted : Sound started := Sound.of_withShapes hstart
  have hsound : Sound b := hstarted.run operations
  obtain ⟨rfl, hsession⟩ := eq_of_withShapes hstart
  obtain ⟨_, _, hnone⟩ := Session.Registry.start hsession
  have hempty : Collected started.settings [] started.session.styleTexts := by
    rw [Session.styleTexts, hnone]
    exact Collected.nil
  refine ⟨hempty.run hstarted operations, fun draw code id => ⟨fun path hcapturer => ?_, ?_⟩⟩
  · rw [hsound.transform_of_capturer? hcapturer]
  · intro hcapturer
    exact styleTexts_of_not_captured hsound hcapturer draw code

end

/-- A block that comes before the component is not captured, and a root module that cannot be read
changes nothing. Of two texts of one block the later one stays, in the place of the first. -/
theorem styles_of_run_repeated :
    let settings : Settings := {}
    let root := ("import './A.vue?index=0&lang.css'; import './A.vue?index=1&lang.css';" ++
      "function _sfc_render() \x7b\x7d").toList
    let transform (code id : String) : Operation := .transform (fun _ _ => 1) code.toList id.toList
    let operations : List Operation :=
      [transform "a" "A.vue?index=0&lang.css", .transform (fun _ _ => 1) root "A.vue".toList,
        transform "b" "A.vue?index=1&lang.css", transform "c" "A.vue?index=0&lang.css",
        transform "(" "B.vue", transform "d" "A.vue?index=1&lang.css"]
    let started : Build :=
      { settings, shapes := .stock settings.markerComment
        session :=
          { settings, components := [], index := [], issued := ["aaaaaaaa".toList]
            routine := "_vpis_aaaaaaaa".toList } }
    let log := captures operations started []
    withShapes (fun _ _ => 0) settings (.stock settings.markerComment) = .ok started ∧
      Collected settings log (started.run operations).session.styleTexts ∧
      (log.length, (started.run operations).session.styleTexts)
        = (3, [("A.vue".toList,
            [("A.vue?index=1".toList, "d".toList), ("A.vue?index=0".toList, "c".toList)])]) := by
  intro settings root transform operations started log
  have hstart : withShapes (fun _ _ => 0) settings (.stock settings.markerComment) = .ok started :=
    rfl
  exact ⟨hstart, (styles_of_run hstart operations).1, by decide +kernel⟩

end Build

end ComponentStyles
