import ComponentStyles.Proofs.Build.Owner
import ComponentStyles.Proofs.Build.Root
import ComponentStyles.Proofs.Build.Styles

/-!
# Root modules that lose their shape

A component is to capture style blocks while its root module has a shape, and so gets the call. But a
root module may be read again with another text, and a reading without a shape takes nothing back.
`owner_of_shapeless_iff`: behind such a reading the component owns a module exactly if an earlier
reading had a shape, a reading imports the module, and no component that was created before owns it.
So it keeps out of the way if its root module never had a shape, and swallows style blocks that
nothing injects if it had one (`exists_captured_without_call`).

Proof. What a build knows of its components is a function of what it has read in root modules since
its start (`rosterOf`). A reading adds the entry of its root module or amends it (`roster_told`), and
the run follows by induction (`roster_eq_rosterOf`). So the owner of a module is the first root module
that had a shape in some reading and imports the module in some reading
(`owner?_eq_some_iff_of_roster_eq`).
-/

namespace ComponentStyles

namespace Session

def entry (c : Component) : ModuleId × Option String × List ModuleId :=
  (c.path, c.shape, c.files)

theorem roster_eq_map_entry (s : Session) : s.roster = s.components.map entry := rfl

theorem Registry.roster_update {s : Session} (h : Registry s) {path : ModuleId}
    {change : Component → Component}
    {amend : ModuleId × Option String × List ModuleId → ModuleId × Option String × List ModuleId}
    (hchange : ∀ c, entry (change c) = amend (entry c)) :
    (s.update path change).roster
      = s.roster.map fun e => if e.1 = path then amend e else e := by
  rw [roster_eq_map_entry, roster_eq_map_entry, h.components_update, List.map_map, List.map_map]
  refine List.map_congr_left fun c _ => ?_
  rw [Function.comp, Function.comp, apply_ite entry, hchange]
  rfl

end Session

namespace Build

open Component (addFiles mem_addFiles)

variable {b b' : Build} {id path : ModuleId} {m : Module} {s : Session}

/-! ### Readings -/

/-- What is read in a root module. -/
structure Reading where
  root : ModuleId
  /-- The tag of the shape that the module has. -/
  tag : Option String
  /-- The files that it imports. -/
  files : List ModuleId

def Reading.of (shapes : ShapeSet) (id : ModuleId) (m : Module) : Reading :=
  { root := id, tag := (shapes.detect m).map Shape.tag, files := importedFiles id m }

/-! ### What readings leave behind -/

/-- The root modules that have been read, in the order in which they were read first. -/
def roots (log : List Reading) : List ModuleId :=
  (log.map Reading.root).eraseDups

/-- An entry of the roster behind one more reading of its root module. -/
def Reading.amend (r : Reading) (entry : ModuleId × Option String × List ModuleId) :
    ModuleId × Option String × List ModuleId :=
  (entry.1, r.tag.or entry.2.1, addFiles entry.2.2 r.files)

/-- The entry of a root module behind all its readings. -/
def entryOf (log : List Reading) (path : ModuleId) : ModuleId × Option String × List ModuleId :=
  (log.filter fun r => r.root = path).foldl (fun entry r => r.amend entry) (path, none, [])

/-- The roster that readings leave behind. -/
def rosterOf (log : List Reading) : List (ModuleId × Option String × List ModuleId) :=
  (roots log).map (entryOf log)

variable {log : List Reading} {r : Reading}

theorem mem_roots : path ∈ roots log ↔ ∃ r ∈ log, r.root = path := by
  rw [roots, List.mem_eraseDups, List.mem_map]

theorem roots_concat (log : List Reading) (r : Reading) :
    roots (log ++ [r]) = if r.root ∈ roots log then roots log else roots log ++ [r.root] := by
  have hmem : r.root ∈ roots log ↔ r.root ∈ log.map Reading.root := List.mem_eraseDups
  rw [roots, List.map_append, List.map_singleton, Component.eraseDups_concat]
  exact if_congr hmem.symm rfl rfl

theorem entryOf_concat (log : List Reading) (r : Reading) (path : ModuleId) :
    entryOf (log ++ [r]) path
      = if path = r.root then r.amend (entryOf log path) else entryOf log path := by
  rw [entryOf, List.filter_append, List.foldl_append]
  by_cases h : path = r.root
  · rw [if_pos h, List.filter_cons_of_pos (by simpa using h.symm)]
    rfl
  · rw [if_neg h, List.filter_cons_of_neg (by simpa using Ne.symm h)]
    rfl

theorem entryOf_of_notMem (h : path ∉ roots log) : entryOf log path = (path, none, []) := by
  have hnone : log.filter (fun r => r.root = path) = [] := by
    rw [List.filter_eq_nil_iff]
    intro r hr hpath
    exact h (mem_roots.mpr ⟨r, hr, of_decide_eq_true hpath⟩)
  rw [entryOf, hnone, List.foldl_nil]

theorem entryOf_fst (log : List Reading) (path : ModuleId) : (entryOf log path).1 = path := by
  induction log using List.reverseRecOn with
  | nil => rfl
  | append_singleton log r ih =>
    rw [entryOf_concat]
    split
    · exact ih
    · exact ih

theorem entryOf_iff {q : ModuleId × Option String × List ModuleId → Prop} {p : Reading → Prop}
    (hempty : ¬ q (path, none, [])) (hamend : ∀ r entry, q (r.amend entry) ↔ q entry ∨ p r)
    (log : List Reading) : q (entryOf log path) ↔ ∃ r ∈ log, r.root = path ∧ p r := by
  induction log using List.reverseRecOn with
  | nil => exact iff_of_false hempty (by simp)
  | append_singleton log r ih =>
    rw [entryOf_concat]
    by_cases h : path = r.root
    · rw [if_pos h, hamend, ih]
      simp [← h, or_and_right, exists_or]
    · rw [if_neg h, ih]
      simp [Ne.symm h]

theorem isSome_entryOf (log : List Reading) (path : ModuleId) :
    (entryOf log path).2.1.isSome = true ↔ ∃ r ∈ log, r.root = path ∧ r.tag.isSome = true := by
  refine entryOf_iff (q := fun entry => entry.2.1.isSome = true) Bool.false_ne_true
    (fun r entry => ?_) log
  rw [Reading.amend, Option.isSome_or, Bool.or_eq_true, or_comm]

theorem mem_entryOf {file : ModuleId} (log : List Reading) (path : ModuleId) :
    file ∈ (entryOf log path).2.2 ↔ ∃ r ∈ log, r.root = path ∧ file ∈ r.files := by
  refine entryOf_iff (q := fun entry => file ∈ entry.2.2) List.not_mem_nil (fun r entry => ?_) log
  rw [Reading.amend, mem_addFiles]

theorem map_fst_rosterOf (log : List Reading) : (rosterOf log).map (·.1) = roots log := by
  rw [rosterOf, List.map_map]
  exact (List.map_congr_left fun path _ => entryOf_fst log path).trans (List.map_id _)

theorem rosterOf_concat_of_mem (h : r.root ∈ roots log) :
    rosterOf (log ++ [r])
      = (rosterOf log).map fun entry => if entry.1 = r.root then r.amend entry else entry := by
  rw [rosterOf, roots_concat, if_pos h, rosterOf, List.map_map]
  refine List.map_congr_left fun path _ => ?_
  rw [entryOf_concat, Function.comp, entryOf_fst]

theorem rosterOf_concat_of_notMem (h : r.root ∉ roots log) :
    rosterOf (log ++ [r]) = rosterOf log ++ [r.amend (r.root, none, [])] := by
  rw [rosterOf, roots_concat, if_neg h, List.map_append, List.map_singleton, entryOf_concat,
    if_pos rfl, entryOf_of_notMem h]
  congr 1
  refine List.map_congr_left fun path hpath => ?_
  rw [entryOf_concat, if_neg fun heq : path = r.root => h (heq ▸ hpath)]

theorem roster_told (h : Sound b) (hs : b.session.Opens id s)
    (hlog : b.session.roster = rosterOf log) :
    (told id m s b).session.roster = rosterOf (log ++ [.of b.shapes id m]) := by
  have hlearn : ∀ c, Session.entry (learn id m (b.shapes.detect m) c)
      = (Reading.of b.shapes id m).amend (Session.entry c) := by
    intro c
    rw [learn_eq_with]
    rfl
  have hknown : ∀ path, path ∈ roots log ↔ ∃ c ∈ b.session.components, c.path = path := by
    intro path
    rw [← Session.mem_paths_iff, Session.paths, hlog, map_fst_rosterOf]
  rcases hs with ⟨c, hc, rfl⟩ | ⟨new, hid, hnone, rfl⟩
  · have hmem : id ∈ roots log := (hknown id).mpr ⟨c, h.registry.get?_eq_some_iff.mp hc⟩
    rw [rosterOf_concat_of_mem (r := .of b.shapes id m) hmem, ← hlog]
    exact h.registry.roster_update hlearn
  · have hmem : id ∉ roots log := by
      rw [hknown]
      rintro ⟨c, hc, hpath⟩
      exact h.registry.get?_eq_none_iff.mp hnone c hc hpath
    rw [rosterOf_concat_of_notMem (r := .of b.shapes id m) hmem, ← hlog, told,
      Session.roster_eq_map_entry, h.registry.components_update_created hid hnone, List.map_append,
      List.map_singleton, hlearn]
    rfl

/-! ### Owners -/

/-- A root module that had a shape in some reading and imports the file in some reading, perhaps not
in the same one. -/
def IsCandidate (log : List Reading) (id path : ModuleId) : Prop :=
  (∃ r ∈ log, r.root = path ∧ r.tag.isSome = true) ∧ ∃ r ∈ log, r.root = path ∧ id ∈ r.files

/-- No root module that was read first before this one is a candidate. -/
def IsUnpreceded (log : List Reading) (id path : ModuleId) : Prop :=
  ∃ front rest, roots log = front ++ path :: rest ∧ ∀ other ∈ front, ¬ IsCandidate log id other

theorem owner?_eq_some_iff_of_roster_eq (hlog : b.session.roster = rosterOf log) :
    b.owner? id = some path ↔ IsCandidate log id path ∧ IsUnpreceded log id path := by
  have hcandidate : ∀ path, ((entryOf log path).2.1.isSome && (entryOf log path).2.2.contains id)
      = true ↔ IsCandidate log id path := by
    intro path
    rw [Bool.and_eq_true, isSome_entryOf, List.contains_iff_mem, mem_entryOf, IsCandidate]
  have hpath : (fun entry : ModuleId × Option String × List ModuleId => entry.1) ∘ entryOf log
      = fun path => path := by
    funext path
    exact entryOf_fst log path
  rw [owner?_eq_find?_roster, hlog, rosterOf, List.find?_map, Option.map_map, hpath, Option.map_id',
    List.find?_eq_some_iff_append]
  refine and_congr (hcandidate path) (exists_congr fun front => exists_congr fun rest =>
    and_congr_right fun _ => forall₂_congr fun other _ => ?_)
  rw [Bool.not_eq_true', ← Bool.not_eq_true]
  exact not_congr (hcandidate other)

theorem isCandidate_of_tag_eq_none {earlier later : List Reading} (htag : r.tag = none)
    (hlater : ∀ other ∈ later, other.root ≠ r.root) :
    IsCandidate (earlier ++ [r] ++ later) id r.root ↔
      (∃ other ∈ earlier, other.root = r.root ∧ other.tag.isSome = true) ∧
        ∃ other ∈ earlier ++ [r], other.root = r.root ∧ id ∈ other.files := by
  have hskip : ∀ p : Reading → Prop, (∃ other ∈ earlier ++ [r] ++ later, other.root = r.root ∧ p other)
      ↔ ∃ other ∈ earlier ++ [r], other.root = r.root ∧ p other := by
    intro p
    constructor
    · rintro ⟨other, hother, hroot, hp⟩
      rcases List.mem_append.mp hother with hother | hother
      · exact ⟨other, hother, hroot, hp⟩
      · exact absurd hroot (hlater other hother)
    · rintro ⟨other, hother, hp⟩
      exact ⟨other, List.mem_append_left later hother, hp⟩
  rw [IsCandidate, hskip, hskip]
  refine and_congr_left fun _ => ?_
  simp [htag, or_and_right, exists_or]

/-! ### What calls read -/

section

variable [Script.Reader]

/-- What is read in a call, if it is for a root module and does not fail. -/
def Call.reading? (call : Call) (b : Build) : Option Reading :=
  if call.completesRoot b then
    (Module.ofText call.code call.id).toOption.map (Reading.of b.shapes call.id)
  else none

/-- What is read in calls, one after the other. -/
def readings : List Call → Build → List Reading
  | [], _ => []
  | call :: calls, b =>
    (call.reading? b).toList ++ readings calls (b.transform call.draw call.code call.id).2

theorem readings_append (calls later : List Call) (b : Build) :
    readings (calls ++ later) b = readings calls b ++ readings later (b.transformAll calls) := by
  induction calls generalizing b with
  | nil => rfl
  | cons call calls ih =>
    rw [List.cons_append, readings, readings, ih, transformAll_cons, List.append_assoc]

theorem reading?_of_not_completesRoot {call : Call} (h : call.completesRoot b = false) :
    call.reading? b = none := by
  rw [Call.reading?, h, if_neg Bool.false_ne_true]

theorem exists_reading?_of_completesRoot {call : Call} (h : call.completesRoot b = true) :
    ∃ m s, Module.ofText call.code call.id = .ok m ∧ b.session.Opens call.id s ∧
      call.reading? b = some (.of b.shapes call.id m) ∧
      b.transform call.draw call.code call.id
        = (rootAnswer call.code call.id m (told call.id m s b), told call.id m s b) := by
  have hcall := h
  rw [Call.completesRoot, Bool.and_eq_true] at hcall
  obtain ⟨hroot, hok⟩ := hcall
  rcases transform_root_cases hroot call.draw call.code with
    ⟨fault, heq⟩ | ⟨m, s, hm, hs, heq⟩
  · rw [heq] at hok
    cases hok
  · refine ⟨m, s, hm, hs, ?_, heq⟩
    rw [Call.reading?, if_pos h, hm]
    rfl

theorem map_root_readings (calls : List Call) (b : Build) :
    (readings calls b).map Reading.root = completedRoots calls b := by
  induction calls generalizing b with
  | nil => rfl
  | cons call calls ih =>
    rw [readings, List.map_append, ih, completedRoots]
    cases hcall : call.completesRoot b with
    | false => rw [reading?_of_not_completesRoot hcall]; rfl
    | true =>
      obtain ⟨_, _, _, _, hreading, _⟩ := exists_reading?_of_completesRoot hcall
      rw [hreading]
      rfl

theorem readings_concat {calls : List Call} {call : Call} {r : Reading}
    (h : call.reading? (b.transformAll calls) = some r) :
    readings (calls ++ [call]) b = readings calls b ++ [r] := by
  rw [readings_append, readings, readings, h]
  rfl

theorem root_ne_of_mem_readings {calls : List Call} (h : path ∉ completedRoots calls b) :
    ∀ r ∈ readings calls b, r.root ≠ path := by
  rintro r hr rfl
  rw [← map_root_readings] at h
  exact h (List.mem_map_of_mem hr)

/-! ### What a build knows -/

theorem roster_transform_of_roster_eq (h : Sound b) (hlog : b.session.roster = rosterOf log)
    (call : Call) :
    (b.transform call.draw call.code call.id).2.session.roster
      = rosterOf (log ++ (call.reading? b).toList) := by
  cases hcall : call.completesRoot b with
  | false =>
    rw [roster_of_not_completesRoot h hcall, reading?_of_not_completesRoot hcall, hlog,
      Option.toList_none, List.append_nil]
  | true =>
    obtain ⟨m, s, _, hs, hreading, heq⟩ := exists_reading?_of_completesRoot hcall
    rw [heq, hreading]
    exact roster_told h hs hlog

theorem roster_transformAll_of_roster_eq (h : Sound b) (hlog : b.session.roster = rosterOf log)
    (calls : List Call) :
    (b.transformAll calls).session.roster = rosterOf (log ++ readings calls b) := by
  induction calls generalizing b log with
  | nil => rwa [readings, List.append_nil]
  | cons call calls ih =>
    rw [transformAll_cons, readings, ← List.append_assoc]
    exact ih (h.transform _ _ _) (roster_transform_of_roster_eq h hlog call)

/-- The roster of a build is that of the root modules that it has read since its start. -/
theorem roster_eq_rosterOf {draw : Draw} {started : Build}
    (hstart : Session.start draw started.settings = .ok started.session) (calls : List Call) :
    (started.transformAll calls).session.roster = rosterOf (readings calls started) := by
  obtain ⟨_, _, hnone⟩ := Session.Registry.start hstart
  have hempty : started.session.roster = rosterOf [] := by
    rw [Session.roster, hnone]
    rfl
  exact roster_transformAll_of_roster_eq (Sound.of_start hstart) hempty calls

/-! ### Root modules without a shape -/

theorem exists_reading?_of_answer_none (h : Sound b) {call : Call}
    (hroot : ModuleId.isComponent b.settings call.id = true)
    (hnone : (b.transform call.draw call.code call.id).1 = .ok none) :
    ∃ r, call.reading? b = some r ∧ r.root = call.id ∧ r.tag = none := by
  have hcall : call.completesRoot b = true := by
    rw [Call.completesRoot, hroot, hnone]
    rfl
  obtain ⟨m, s, hm, hs, hreading, heq⟩ := exists_reading?_of_completesRoot hcall
  obtain ⟨answer, hanswer, hshape⟩ := h.exists_rootAnswer hroot hm hs
  rw [heq, hanswer] at hnone
  refine ⟨_, hreading, rfl, ?_⟩
  rw [Reading.of, hshape.mp (Except.ok.inj hnone), Option.map_none]

/-- A root module has just been read without a shape. From then on until it is read again, its
component still owns what it imports, if an earlier reading had a shape and no component before it
owns the module. If no earlier reading had a shape, it owns and captures nothing. -/
theorem owner_of_shapeless_iff {draw : Draw} {started : Build}
    (hstart : Session.start draw started.settings = .ok started.session)
    (earlier later : List Call) {last : Call}
    (hroot : ModuleId.isComponent started.settings last.id = true)
    (hlast : ((started.transformAll earlier).transform last.draw last.code last.id).1 = .ok none)
    (hlater : last.id ∉ completedRoots later (started.transformAll (earlier ++ [last]))) :
    let b := started.transformAll (earlier ++ [last] ++ later)
    let log := readings (earlier ++ [last] ++ later) started
    (∀ id, b.owner? id = some last.id ↔
      ((∃ r ∈ readings earlier started, r.root = last.id ∧ r.tag.isSome = true) ∧
        ∃ r ∈ readings (earlier ++ [last]) started, r.root = last.id ∧ id ∈ r.files) ∧
          IsUnpreceded log id last.id) ∧
    ((∀ r ∈ readings earlier started, r.root = last.id → r.tag = none) →
      ∀ id, b.owner? id ≠ some last.id ∧ b.capturer? id ≠ some last.id) := by
  intro b log
  have hsound : Sound (started.transformAll earlier) := (Sound.of_start hstart).transformAll earlier
  have hsettings : (started.transformAll earlier).settings = started.settings :=
    settings_run _ started
  obtain ⟨r, hreading, hid, htag⟩ := exists_reading?_of_answer_none hsound (hsettings ▸ hroot) hlast
  have hconcat := readings_concat hreading
  have hlog : log = readings earlier started ++ [r]
      ++ readings later (started.transformAll (earlier ++ [last])) := by
    rw [← hconcat, ← readings_append]
  have hothers := root_ne_of_mem_readings (hid ▸ hlater)
  have howner : ∀ id, b.owner? id = some last.id ↔
      ((∃ r ∈ readings earlier started, r.root = last.id ∧ r.tag.isSome = true) ∧
        ∃ r ∈ readings (earlier ++ [last]) started, r.root = last.id ∧ id ∈ r.files) ∧
          IsUnpreceded log id last.id := by
    intro id
    rw [owner?_eq_some_iff_of_roster_eq (roster_eq_rosterOf hstart _), hconcat, ← hid,
      ← isCandidate_of_tag_eq_none htag hothers, ← hlog]
  refine ⟨howner, fun hnever id => ?_⟩
  -- what is captured for a component is owned by it
  have hnot : b.owner? id ≠ some last.id := by
    intro h
    obtain ⟨⟨⟨other, hother, hpath, hsome⟩, _⟩, _⟩ := (howner id).mp h
    rw [hnever other hother hpath] at hsome
    cases hsome
  refine ⟨hnot, fun hcapturer => hnot ?_⟩
  obtain ⟨_, _, _, c, hc, hpath⟩ := capturer?_eq_some_iff.mp hcapturer
  rw [owner?, hc, Option.map_some, hpath]

end

theorem owner_of_shapeless_iff_shared :
    let root := "import './x?lang.css'; function _sfc_render() \x7b\x7d".toList
    let bare := "import './x?lang.css'; import './y?lang.css';".toList
    let call (place : Fin 36) (code : Text) (id : String) : Call :=
      { draw := fun _ _ => place, code, id := id.toList }
    let earlier := [call 1 root "/A.vue"]
    let last := call 2 bare "/B.vue"
    let later := [call 3 "p \x7b\x7d".toList "/x?lang.css", call 3 "(".toList "/B.vue"]
    let b := initial.transformAll (earlier ++ [last] ++ later)
    Session.start (fun _ _ => 0) initial.settings = .ok initial.session ∧
      ((initial.transformAll earlier).transform last.draw last.code last.id).1 = .ok none ∧
      b.owner? "/x?lang.css".toList = some "/A.vue".toList ∧
      ∀ id, b.owner? id ≠ some "/B.vue".toList ∧ b.capturer? id ≠ some "/B.vue".toList := by
  intro root bare call earlier last later b
  have hstart : Session.start (fun _ _ => 0) initial.settings = .ok initial.session := rfl
  have hlast : ((initial.transformAll earlier).transform last.draw last.code last.id).1
      = .ok none := by decide +kernel
  have hlater : last.id ∉ completedRoots later (initial.transformAll (earlier ++ [last])) := by
    decide +kernel
  have hnever : ∀ r ∈ readings earlier initial, r.root = last.id → r.tag = none := by
    decide +kernel
  exact ⟨hstart, hlast, by decide +kernel,
    (owner_of_shapeless_iff hstart earlier later (by decide) hlast hlater).2 hnever⟩

/-- A root module that had a shape is read again without one and gets no call. A style block that it
imports is captured all the same and left empty. -/
theorem exists_captured_without_call :
    let root := "import './x?lang.css'; function _sfc_render() \x7b\x7d".toList
    let bare := "import './x?lang.css';".toList
    let call (place : Fin 36) (code : Text) (id : String) : Call :=
      { draw := fun _ _ => place, code, id := id.toList }
    let first := call 1 root "/A.vue"
    let last := call 2 bare "/A.vue"
    let b := initial.transformAll [first, last]
    let id := "/x?lang.css".toList
    Session.start (fun _ _ => 0) initial.settings = .ok initial.session ∧
      ((initial.transformAll [first]).transform last.draw last.code last.id).1 = .ok none ∧
      b.owner? id = some "/A.vue".toList ∧
      (b.transform (fun _ _ => 3) "p \x7b\x7d".toList id).1 = .ok (some []) := by
  intro root bare call first last b id
  exact ⟨rfl, by decide +kernel, by decide +kernel, by decide +kernel⟩

end Build

end ComponentStyles
