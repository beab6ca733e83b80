import ComponentStyles.Proofs.Build.Run

/-!
# Owners of modules

A module that a component imports belongs to the first component that imports it. While a build goes
on, components are added and learn what they import, so this could change at any time. It does not
(`owner_transformAll_append`): as long as no root module is transformed twice without a fault, a
module that has an owner keeps it.

Proof. Who owns what is decided by the paths, shapes and files of the components in their order
(`owner?_eq_find?_roster`). A root module that has not been transformed before adds an entry at the
end of that list, and no other transform changes it (`roster_transform`). So the list only grows
(`roster_transformAll`), and what is found first in it is found first in a longer one.
-/

namespace ComponentStyles

namespace Session

/-- The components with their shapes and the files that they import. -/
def roster (s : Session) : List (ModuleId × Option String × List ModuleId) :=
  s.components.map fun c => (c.path, c.shape, c.files)

def paths (s : Session) : List ModuleId :=
  s.roster.map (·.1)

theorem mem_paths_iff {s : Session} {path : ModuleId} :
    path ∈ s.paths ↔ ∃ c ∈ s.components, c.path = path := by
  rw [paths, roster, List.map_map, List.mem_map]
  rfl

theorem Registry.components_update_created {s : Session} (h : Registry s) {new : Text}
    {path : ModuleId} (hid : s.Issuable new) (hnone : s.get? path = none)
    {change : Component → Component} :
    ((s.created new path).update path change).components
      = s.components ++ [change (Component.fresh (Component.idStart ++ new) path)] := by
  have hpath : (Component.fresh (Component.idStart ++ new) path).path = path := rfl
  rw [(h.created hid hnone).components_update, Session.created, List.map_append,
    List.map_singleton, if_pos hpath]
  congr 1
  refine (List.map_congr_left fun c hc => ?_).trans (List.map_id _)
  exact if_neg (h.get?_eq_none_iff.mp hnone c hc)

end Session

namespace Build

variable {b b' : Build} {id path : ModuleId}

/-! ### Owners -/

def owner? (id : ModuleId) (b : Build) : Option ModuleId :=
  (b.session.ownerOf id).map (·.path)

theorem owner?_eq_find?_roster (id : ModuleId) (b : Build) :
    b.owner? id
      = (b.session.roster.find? fun entry =>
          entry.2.1.isSome && entry.2.2.contains id).map (·.1) := by
  rw [owner?, Session.ownerOf, Session.roster, List.find?_map, Option.map_map]
  rfl

theorem owner?_of_prefix (h : b.session.roster <+: b'.session.roster)
    (howner : b.owner? id = some path) : b'.owner? id = some path := by
  obtain ⟨later, hroster⟩ := h
  rw [owner?_eq_find?_roster] at howner ⊢
  obtain ⟨entry, hentry, rfl⟩ := Option.map_eq_some_iff.mp howner
  rw [← hroster, List.find?_append, hentry, Option.some_or, Option.map_some]

/-! ### Transforms one after the other -/

section

variable [Script.Reader]

/-- A transform that a host asks for, with the random choices that are made in it. -/
structure Call where
  draw : Draw
  code : Text
  id : ModuleId

def Call.operation (call : Call) : Operation :=
  .transform call.draw call.code call.id

def transformAll (calls : List Call) (b : Build) : Build :=
  b.run (calls.map Call.operation)

theorem transformAll_cons (call : Call) (calls : List Call) (b : Build) :
    b.transformAll (call :: calls)
      = (b.transform call.draw call.code call.id).2.transformAll calls := rfl

theorem transformAll_append (calls later : List Call) (b : Build) :
    b.transformAll (calls ++ later) = (b.transformAll calls).transformAll later := by
  rw [transformAll, List.map_append]
  exact List.foldl_append

theorem Sound.transformAll (h : Sound b) (calls : List Call) : Sound (b.transformAll calls) :=
  h.run _

/-- Whether a call is for a root module and does not fail. -/
def Call.completesRoot (call : Call) (b : Build) : Bool :=
  ModuleId.isComponent b.settings call.id && (b.transform call.draw call.code call.id).1.isOk

/-- The root modules that calls transform without a fault, as often as they do. -/
def completedRoots : List Call → Build → List ModuleId
  | [], _ => []
  | call :: calls, b =>
    let rest := completedRoots calls (b.transform call.draw call.code call.id).2
    if call.completesRoot b then call.id :: rest else rest

theorem completedRoots_append (calls later : List Call) (b : Build) :
    completedRoots (calls ++ later) b
      = completedRoots calls b ++ completedRoots later (b.transformAll calls) := by
  induction calls generalizing b with
  | nil => rfl
  | cons call calls ih =>
    rw [List.cons_append, completedRoots, completedRoots, ih, transformAll_cons]
    split <;> rfl

/-! ### What a transform adds -/

theorem roster_of_not_completesRoot (h : Sound b) {call : Call}
    (hcall : call.completesRoot b = false) :
    (b.transform call.draw call.code call.id).2.session.roster = b.session.roster := by
  cases hroot : ModuleId.isComponent b.settings call.id with
  | true =>
    rw [Call.completesRoot, hroot, Bool.true_and] at hcall
    rcases htransform : b.transform call.draw call.code call.id with ⟨fault | answer, b'⟩
    · rw [(eq_of_transform_eq_error htransform).1]
    · rw [htransform] at hcall
      cases hcall
  | false =>
    cases hcapturer : b.capturer? call.id with
    | none => rw [h.transform_dependent hroot hcapturer]
    | some path =>
      have hkept : ∀ c, (fun c : Component => (c.path, c.shape, c.files))
          (Component.recordStyle b.settings call.id call.code c) = (c.path, c.shape, c.files) :=
        fun _ => rfl
      rw [h.transform_of_capturer? hcapturer]
      exact Session.map_update hkept b.session path

theorem roster_of_new_root (h : Sound b) {call : Call}
    (hroot : ModuleId.isComponent b.settings call.id = true) (hnew : call.id ∉ b.session.paths) :
    ∃ added, (b.transform call.draw call.code call.id).2.session.roster
        = b.session.roster ++ added ∧ ∀ entry ∈ added, entry.1 = call.id := by
  rcases transform_of_isComponent hroot call.draw call.code with heq | ⟨m, s, _, hs, heq⟩
  · exact ⟨[], by rw [heq, List.append_nil], by simp⟩
  · rcases hs with ⟨c, hc, _⟩ | ⟨new, hid, hnone, rfl⟩
    · obtain ⟨hmem, hpath⟩ := h.registry.get?_eq_some_iff.mp hc
      exact absurd (Session.mem_paths_iff.mpr ⟨c, hmem, hpath⟩) hnew
    · rw [heq, told, Session.roster, h.registry.components_update_created hid hnone,
        List.map_append]
      refine ⟨_, rfl, fun entry hentry => ?_⟩
      rw [List.map_singleton, List.mem_singleton] at hentry
      rw [hentry]
      exact (amends_learn call.id m _).path _

theorem roster_transform (h : Sound b) {call : Call}
    (hnew : call.completesRoot b = true → call.id ∉ b.session.paths) :
    ∃ added, (b.transform call.draw call.code call.id).2.session.roster
        = b.session.roster ++ added ∧
      ∀ entry ∈ added, call.completesRoot b = true ∧ entry.1 = call.id := by
  cases hcall : call.completesRoot b with
  | false =>
    refine ⟨[], ?_, by simp⟩
    rw [roster_of_not_completesRoot h hcall, List.append_nil]
  | true =>
    have hroot : ModuleId.isComponent b.settings call.id = true :=
      (Bool.and_eq_true_iff.mp hcall).1
    obtain ⟨added, hadded, hpaths⟩ := roster_of_new_root h hroot (hnew hcall)
    exact ⟨added, hadded, fun entry hentry => ⟨rfl, hpaths entry hentry⟩⟩

/-! ### Runs -/

/-- While no root module is completed twice, and none whose component is known, components are only
added at the end, with the files of completed roots. -/
theorem roster_transformAll (h : Sound b) {calls : List Call}
    (honce : (completedRoots calls b).Nodup)
    (hnew : b.session.paths.Disjoint (completedRoots calls b)) :
    ∃ added, (b.transformAll calls).session.roster = b.session.roster ++ added ∧
      ∀ entry ∈ added, entry.1 ∈ completedRoots calls b := by
  induction calls generalizing b with
  | nil => exact ⟨[], (List.append_nil _).symm, by simp⟩
  | cons call calls ih =>
    have hcompleted : ∀ path, path ∈ completedRoots (call :: calls) b ↔
        call.completesRoot b = true ∧ path = call.id ∨
          path ∈ completedRoots calls (b.transform call.draw call.code call.id).2 := by
      intro path
      rw [completedRoots]
      split <;> simp_all
    have hunknown : call.completesRoot b = true → call.id ∉ b.session.paths := fun hcall hmem =>
      hnew hmem ((hcompleted call.id).mpr (Or.inl ⟨hcall, rfl⟩))
    have hrest : (completedRoots calls (b.transform call.draw call.code call.id).2).Nodup := by
      rw [completedRoots] at honce
      split at honce
      · exact (List.nodup_cons.mp honce).2
      · exact honce
    obtain ⟨first, hfirst, hpaths⟩ := roster_transform h hunknown
    -- the root that has just been completed does not come again
    have hdisjoint : (b.transform call.draw call.code call.id).2.session.paths.Disjoint
        (completedRoots calls (b.transform call.draw call.code call.id).2) := by
      intro path hpath hlater
      rw [Session.paths, hfirst, List.map_append, List.mem_append] at hpath
      rcases hpath with hold | hadded
      · exact hnew hold ((hcompleted path).mpr (Or.inr hlater))
      · obtain ⟨entry, hentry, rfl⟩ := List.mem_map.mp hadded
        obtain ⟨hcall, hid⟩ := hpaths entry hentry
        rw [completedRoots, if_pos hcall, List.nodup_cons] at honce
        exact honce.1 (hid ▸ hlater)
    obtain ⟨added, hadded, hroots⟩ := ih (h.transform _ _ _) hrest hdisjoint
    refine ⟨first ++ added, ?_, fun entry hentry => ?_⟩
    · rw [transformAll_cons, hadded, hfirst, List.append_assoc]
    · rw [hcompleted]
      exact (List.mem_append.mp hentry).imp (hpaths entry) (hroots entry)

/-- Whoever owns a module stays its owner, whatever is transformed, as long as no root module is
transformed twice without a fault. A build that has just been started is one whose session is new,
be the build new or started over. -/
theorem owner_transformAll_append {draw : Draw} {started : Build}
    (hstart : Session.start draw started.settings = .ok started.session) (calls later : List Call)
    (honce : (completedRoots (calls ++ later) started).Nodup)
    (howner : (started.transformAll calls).owner? id = some path) :
    (started.transformAll (calls ++ later)).owner? id = some path := by
  have hsound : Sound started := Sound.of_start hstart
  obtain ⟨_, _, hnone⟩ := Session.Registry.start hstart
  have hempty : started.session.roster = [] := by
    rw [Session.roster, hnone, List.map_nil]
  rw [completedRoots_append, List.nodup_append] at honce
  obtain ⟨hcalls, hlater, hapart⟩ := honce
  obtain ⟨known, hknown, hroots⟩ := roster_transformAll hsound hcalls (by
    rw [Session.paths, hempty]
    exact List.disjoint_nil_left _)
  have hnew : (started.transformAll calls).session.paths.Disjoint
      (completedRoots later (started.transformAll calls)) := by
    intro path hpath hcompleted
    rw [Session.paths, hknown, hempty, List.nil_append] at hpath
    obtain ⟨entry, hentry, rfl⟩ := List.mem_map.mp hpath
    exact hapart _ (hroots entry hentry) _ hcompleted rfl
  obtain ⟨added, hadded, _⟩ := roster_transformAll (hsound.transformAll calls) hlater hnew
  rw [transformAll_append]
  exact owner?_of_prefix ⟨added, hadded.symm⟩ howner

end

theorem owner_transformAll_append_shared :
    let root := "import './x?lang.css'; function _sfc_render() \x7b\x7d".toList
    let call (place : Fin 36) (code : Text) (id : String) : Call :=
      { draw := fun _ _ => place, code, id := id.toList }
    let calls := [call 1 "(".toList "/A.vue", call 1 root "/A.vue"]
    let later := [call 2 root "/B.vue", call 3 "p \x7b\x7d".toList "/x?lang.css",
      call 3 "(".toList "/A.vue", call 3 "(".toList "/C.vue"]
    let id := "/x?lang.css".toList
    Session.start (fun _ _ => 0) initial.settings = .ok initial.session ∧
      completedRoots (calls ++ later) initial = ["/A.vue".toList, "/B.vue".toList] ∧
      (initial.transformAll calls).owner? id = some "/A.vue".toList ∧
      (initial.transformAll (calls ++ later)).owner? id = some "/A.vue".toList := by
  intro root call calls later id
  have hstart : Session.start (fun _ _ => 0) initial.settings = .ok initial.session := rfl
  have hroots : completedRoots (calls ++ later) initial = ["/A.vue".toList, "/B.vue".toList] := by
    decide +kernel
  have honce : (completedRoots (calls ++ later) initial).Nodup := by
    rw [hroots]
    decide
  have howner : (initial.transformAll calls).owner? id = some "/A.vue".toList := by
    decide +kernel
  exact ⟨hstart, hroots, howner, owner_transformAll_append hstart calls later honce howner⟩

end Build

end ComponentStyles
