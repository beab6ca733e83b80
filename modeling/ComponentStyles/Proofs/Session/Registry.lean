import ComponentStyles.Proofs.Component.Styles
import ComponentStyles.Proofs.Session.Run
import Mathlib.Data.List.Infix

/-!
# The registry of a session

However a session is changed, its registry stays consistent (`Registry`): the index leads from the
path of each component to its place and knows no other path, no two components share a path, an id
or a placeholder, and none has the id that the routine is named after. Components are only ever
added at the end, and keep their ids, paths and placeholders (`registry_of_run`).

Proof. A command leaves the session as it is, issues an id, creates a component with a new id for an
unknown path, or amends one component in its shape, files and style texts (`perform_cases`). Each of
the last three keeps the registry, and so does a run by induction (`Registry.run`).
-/

namespace ComponentStyles

/-! ### Amendments -/

namespace Component

/-- What a component is known by. -/
def identity (c : Component) : Text × ModuleId × Text :=
  (c.id, c.path, c.placeholder)

/-- A change that leaves a component what it is known by, and repeats no file and no key. -/
structure Amends (change : Component → Component) : Prop where
  identity (c : Component) : (change c).identity = c.identity
  files (c : Component) : c.files.Nodup → (change c).files.Nodup
  keys (c : Component) : (c.css.map (·.1)).Nodup → ((change c).css.map (·.1)).Nodup

namespace Amends

variable {change : Component → Component}

theorem id (h : Amends change) (c : Component) : (change c).id = c.id :=
  (Prod.mk.inj (h.identity c)).1

theorem path (h : Amends change) (c : Component) : (change c).path = c.path :=
  (Prod.mk.inj (Prod.mk.inj (h.identity c)).2).1

theorem placeholder (h : Amends change) (c : Component) :
    (change c).placeholder = c.placeholder :=
  (Prod.mk.inj (Prod.mk.inj (h.identity c)).2).2

end Amends

theorem recordDependency_cases (c : Component) (importer : ModuleId) (specifier : Text) :
    (c.recordDependency importer specifier).2 = c ∨
      ∃ file, file ∉ c.files ∧
        (c.recordDependency importer specifier).2 = { c with files := c.files ++ [file] } := by
  rw [recordDependency]
  split
  · exact Or.inl rfl
  · rename_i file _
    by_cases hfile : file ∈ c.files
    · rw [if_pos hfile]
      exact Or.inl rfl
    · rw [if_neg hfile]
      exact Or.inr ⟨file, hfile, rfl⟩

theorem amends_setShape (shape : Option String) : Amends fun c => { c with shape } :=
  ⟨fun _ => rfl, fun _ h => h, fun _ h => h⟩

theorem amends_recordDependency (importer : ModuleId) (specifier : Text) :
    Amends fun c => (c.recordDependency importer specifier).2 where
  identity c := by
    rcases c.recordDependency_cases importer specifier with h | ⟨_, _, h⟩ <;> rw [h]; rfl
  files c hfiles := by
    rcases c.recordDependency_cases importer specifier with h | ⟨file, hfile, h⟩
    · rwa [h]
    · rw [h, List.nodup_append]
      refine ⟨hfiles, List.nodup_singleton file, fun old hold new hnew heq => hfile ?_⟩
      rw [List.mem_singleton] at hnew
      rwa [← hnew, ← heq]
  keys c hkeys := by
    rcases c.recordDependency_cases importer specifier with h | ⟨_, _, h⟩ <;> rwa [h]

theorem amends_recordStyle (settings : Settings) (id : ModuleId) (text : Text) :
    Amends (recordStyle settings id text) :=
  ⟨fun _ => rfl, fun _ h => h, fun _ h => nodup_putText h⟩

end Component

namespace Session

variable {s : Session} {path : ModuleId} {change : Component → Component}

/-! ### What a command can do -/

def created (id : Text) (path : ModuleId) (s : Session) : Session :=
  { s with
    issued := id :: s.issued
    components := s.components ++ [Component.fresh (Component.idStart ++ id) path]
    index := s.index ++ [(path, s.components.length)] }

/-- An id that can be issued: it can be drawn, and has not been issued before. -/
def Issuable (s : Session) (id : Text) : Prop :=
  Draw.Yields s.settings.placeholderLength id ∧ id ∉ s.issued

theorem perform_cases (command : Command) (s : Session) :
    s.perform command = s ∨
      (∃ id, s.Issuable id ∧ s.perform command = { s with issued := id :: s.issued }) ∨
      (∃ id path, s.Issuable id ∧ s.get? path = none ∧ s.perform command = s.created id path) ∨
      ∃ path change, Component.Amends change ∧ s.perform command = s.update path change := by
  cases command with
  | issue draw =>
    rw [perform]
    rcases s.issue_cases draw with ⟨fault, h⟩ | ⟨id, h, hyields, hfresh⟩
    · exact Or.inl (by rw [h])
    · exact Or.inr (Or.inl ⟨id, ⟨hyields, hfresh⟩, by rw [h]⟩)
  | getOrCreate draw path =>
    rw [perform]
    rcases s.getOrCreate_cases draw path with
      ⟨_, _, h⟩ | ⟨_, _, h⟩ | ⟨id, hnone, hyields, hfresh, h⟩
    · exact Or.inl (by rw [h])
    · exact Or.inl (by rw [h])
    · exact Or.inr (Or.inr (Or.inl ⟨id, path, ⟨hyields, hfresh⟩, hnone, by rw [h]; rfl⟩))
  | setShape path shape =>
    exact Or.inr (Or.inr (Or.inr ⟨path, _, Component.amends_setShape shape, rfl⟩))
  | recordDependency path importer specifier =>
    exact Or.inr (Or.inr (Or.inr
      ⟨path, _, Component.amends_recordDependency importer specifier, rfl⟩))
  | recordStyle path id text =>
    exact Or.inr (Or.inr (Or.inr
      ⟨path, _, Component.amends_recordStyle s.settings id text, rfl⟩))

/-! ### Updates -/

theorem mem_update {d : Component} (h : d ∈ (s.update path change).components) :
    d ∈ s.components ∨ ∃ c ∈ s.components, d = change c := by
  rcases s.update_cases path change with heq | ⟨front, c, back, hcs, heq⟩
  · exact Or.inl (heq ▸ h)
  · rw [heq] at h
    rw [hcs]
    rcases List.mem_append.mp h with h | h
    · exact Or.inl (List.mem_append_left _ h)
    · rcases List.mem_cons.mp h with rfl | h
      · exact Or.inr ⟨c, List.mem_append_right _ List.mem_cons_self, rfl⟩
      · exact Or.inl (List.mem_append_right _ (List.mem_cons_of_mem c h))

theorem map_update {α : Type} {f : Component → α} (hf : ∀ c, f (change c) = f c)
    (s : Session) (path : ModuleId) :
    (s.update path change).components.map f = s.components.map f := by
  rcases s.update_cases path change with heq | ⟨front, c, back, hcs, heq⟩
  · rw [heq]
  · rw [heq, hcs, List.map_append, List.map_append, List.map_cons, List.map_cons, hf]

theorem update_eq_with (s : Session) (path : ModuleId) (change : Component → Component) :
    s.update path change = { s with components := (s.update path change).components } := by
  rcases s.update_cases path change with heq | ⟨_, _, _, _, heq⟩ <;> rw [heq]

/-! ### The registry -/

/-- A consistent registry of components. -/
structure Registry (s : Session) : Prop extends IdsSound s where
  /-- The index leads from the path of each component to its place, and from no other path. -/
  index : ∀ path i, s.position? path = some i ↔ (s.components.map (·.path))[i]? = some path
  /-- The routine is named after an issued id that no component has. -/
  routine : ∃ id ∈ s.issued, s.routine = routineStart ++ id ∧
    ∀ c ∈ s.components, c.id ≠ Component.idStart ++ id
  files : ∀ c ∈ s.components, c.files.Nodup
  keys : ∀ c ∈ s.components, (c.css.map (·.1)).Nodup

namespace Registry

theorem position?_of_mem (h : Registry s) {c : Component} (hc : c ∈ s.components) :
    ∃ i, s.position? c.path = some i ∧ s.components[i]? = some c := by
  obtain ⟨i, hi⟩ := List.mem_iff_getElem?.mp hc
  exact ⟨i, (h.index c.path i).mpr (by rw [List.getElem?_map, hi]; rfl), hi⟩

theorem get?_eq_some_iff (h : Registry s) {c : Component} :
    s.get? path = some c ↔ c ∈ s.components ∧ c.path = path := by
  constructor
  · intro hget
    obtain ⟨i, hi, hc⟩ := Option.bind_eq_some_iff.mp hget
    have hpath := (h.index path i).mp hi
    rw [List.getElem?_map, hc] at hpath
    exact ⟨List.mem_of_getElem? hc, Option.some.inj hpath⟩
  · rintro ⟨hc, rfl⟩
    obtain ⟨i, hi, hc⟩ := h.position?_of_mem hc
    rw [get?, hi, Option.bind_some, hc]

theorem get?_eq_none_iff (h : Registry s) :
    s.get? path = none ↔ ∀ c ∈ s.components, c.path ≠ path := by
  constructor
  · intro hnone c hc hpath
    rw [h.get?_eq_some_iff.mpr ⟨hc, hpath⟩] at hnone
    cases hnone
  · intro hall
    rw [Option.eq_none_iff_forall_ne_some]
    intro c hget
    obtain ⟨hc, hpath⟩ := h.get?_eq_some_iff.mp hget
    exact hall c hc hpath

theorem position?_eq_none (h : Registry s) (hnone : s.get? path = none) :
    s.position? path = none := by
  rw [Option.eq_none_iff_forall_ne_some]
  intro i hi
  have hpath := (h.index path i).mp hi
  obtain ⟨c, hc, rfl⟩ := List.mem_map.mp (List.mem_of_getElem? hpath)
  exact h.get?_eq_none_iff.mp hnone c hc rfl

theorem nodup_paths (h : Registry s) : (s.components.map (·.path)).Nodup := by
  rw [List.nodup_iff_getElem?_ne_getElem?]
  intro i j hij hj heq
  have hpath := List.getElem?_eq_getElem hj
  have hi := (h.index _ i).mpr (heq.trans hpath)
  rw [(h.index _ j).mpr hpath] at hi
  exact absurd (Option.some.inj hi) (by omega)

theorem nodup_placeholders (h : Registry s) : (s.components.map (·.placeholder)).Nodup := by
  have hids : s.components.Nodup := h.distinct.of_map _
  exact hids.map_on fun c hc d hd heq => h.issued.eq_of_placeholder_eq hc hd heq

theorem components_update (h : Registry s) (path : ModuleId) (change : Component → Component) :
    (s.update path change).components
      = s.components.map fun c => if c.path = path then change c else c := by
  apply List.ext_getElem?
  intro j
  rw [List.getElem?_map, update]
  split
  · rename_i i hi
    rw [List.getElem?_modify]
    cases hj : s.components[j]? with
    | none => rfl
    | some c =>
      -- the index leads to one place, and the path stands nowhere else
      have hplace : c.path = path ↔ i = j := by
        have hindex := h.index c.path j
        rw [List.getElem?_map, hj] at hindex
        constructor
        · rintro rfl
          rw [hindex.mpr rfl] at hi
          exact (Option.some.inj hi).symm
        · rintro rfl
          have hpath := (h.index path i).mp hi
          rw [List.getElem?_map, hj] at hpath
          exact Option.some.inj hpath
      change some (if i = j then change c else c) = some (if c.path = path then change c else c)
      rw [if_congr hplace rfl rfl]
  · rename_i hnone
    cases hj : s.components[j]? with
    | none => rfl
    | some c =>
      have hpath : c.path ≠ path := by
        rintro rfl
        obtain ⟨i, hi, _⟩ := h.position?_of_mem (List.mem_of_getElem? hj)
        rw [hi] at hnone
        cases hnone
      rw [Option.map_some, if_neg hpath]

/-! ### What keeps the registry -/

theorem getElem?_concat_eq_some_iff {paths : List ModuleId} {path' : ModuleId} {i : Nat}
    (hnew : path ∉ paths) :
    (paths ++ [path])[i]? = some path' ↔
      if path' = path then i = paths.length else paths[i]? = some path' := by
  rcases Nat.lt_trichotomy i paths.length with hlt | rfl | hlt
  · rw [List.getElem?_append_left hlt]
    split
    · subst path'
      exact iff_of_false (fun hget => hnew (List.mem_of_getElem? hget)) (Nat.ne_of_lt hlt)
    · exact Iff.rfl
  · rw [List.getElem?_concat_length, Option.some.injEq, eq_comm,
      List.getElem?_eq_none (Nat.le_refl _)]
    split
    · exact iff_of_true ‹_› rfl
    · exact iff_of_false ‹_› (Option.some_ne_none path').symm
  · have hlength : (paths ++ [path]).length ≤ i := by
      rw [List.length_append]
      exact hlt
    rw [List.getElem?_eq_none hlength, List.getElem?_eq_none (Nat.le_of_lt hlt)]
    split
    · exact iff_of_false (Option.some_ne_none path').symm (Nat.ne_of_gt hlt)
    · exact Iff.rfl

theorem position?_created {id : Text} (hmiss : s.position? path = none) (path' : ModuleId) :
    (s.created id path).position? path'
      = if path' = path then some s.components.length else s.position? path' := by
  change List.lookup path' (s.index ++ [(path, s.components.length)]) = _
  rw [position?] at hmiss
  rw [List.lookup_append]
  by_cases hpath : path' = path
  · rw [if_pos hpath, hpath, hmiss, Option.none_or, List.lookup_cons, beq_self_eq_true]
  · have hother : List.lookup path' [(path, s.components.length)] = none :=
      List.lookup_eq_none_iff.mpr (by simpa using hpath)
    rw [if_neg hpath, hother, Option.or_none, position?]

theorem issue {id : Text} (h : Registry s) (hid : s.Issuable id) :
    Registry { s with issued := id :: s.issued } where
  toIdsSound := h.toIdsSound.issue hid.1
  index := h.index
  routine := by
    obtain ⟨id', hid', hroutine, hother⟩ := h.routine
    exact ⟨id', List.mem_cons_of_mem id hid', hroutine, hother⟩
  files := h.files
  keys := h.keys

theorem created {id : Text} (h : Registry s) (hid : s.Issuable id) (hnone : s.get? path = none) :
    Registry (s.created id path) where
  toIdsSound := h.toIdsSound.create path hid.1 hid.2 _
  index path' i := by
    have hpaths : (s.created id path).components.map (·.path)
        = s.components.map (·.path) ++ [path] := by
      rw [Session.created, List.map_append]
      rfl
    have hnew : path ∉ s.components.map (·.path) := by
      intro hmem
      obtain ⟨c, hc, hpath⟩ := List.mem_map.mp hmem
      exact h.get?_eq_none_iff.mp hnone c hc hpath
    rw [position?_created (h.position?_eq_none hnone), hpaths, getElem?_concat_eq_some_iff hnew,
      List.length_map]
    split
    · rw [Option.some.injEq, eq_comm]
    · exact h.index path' i
  routine := by
    obtain ⟨id', hid', hroutine, hother⟩ := h.routine
    refine ⟨id', List.mem_cons_of_mem id hid', hroutine, fun c hc heq => ?_⟩
    rcases List.mem_append.mp hc with hc | hc
    · exact hother c hc heq
    · rw [List.mem_singleton.mp hc] at heq
      exact hid.2 (List.append_cancel_left heq ▸ hid')
  files c hc := by
    rcases List.mem_append.mp hc with hc | hc
    · exact h.files c hc
    · rw [List.mem_singleton.mp hc]
      exact List.nodup_nil
  keys c hc := by
    rcases List.mem_append.mp hc with hc | hc
    · exact h.keys c hc
    · rw [List.mem_singleton.mp hc]
      exact List.nodup_nil

theorem update (h : Registry s) (path : ModuleId) (hchange : Component.Amends change) :
    Registry (s.update path change) where
  toIdsSound := h.toIdsSound.update path hchange.id hchange.placeholder
  index path' i := by
    rw [map_update hchange.path, ← h.index path' i, s.update_eq_with path change]
    rfl
  routine := by
    obtain ⟨id, hid, hroutine, hother⟩ := h.routine
    rw [s.update_eq_with path change]
    refine ⟨id, hid, hroutine, fun d hd => ?_⟩
    rcases mem_update hd with hd | ⟨c, hc, rfl⟩
    · exact hother d hd
    · rw [hchange.id]
      exact hother c hc
  files d hd := by
    rcases mem_update hd with hd | ⟨c, hc, rfl⟩
    · exact h.files d hd
    · exact hchange.files c (h.files c hc)
  keys d hd := by
    rcases mem_update hd with hd | ⟨c, hc, rfl⟩
    · exact h.keys d hd
    · exact hchange.keys c (h.keys c hc)

theorem perform (h : Registry s) (command : Command) : Registry (s.perform command) := by
  rcases s.perform_cases command with
    heq | ⟨id, hid, heq⟩ | ⟨id, path, hid, hnone, heq⟩ | ⟨path, change, hchange, heq⟩
  · rwa [heq]
  · rw [heq]
    exact h.issue hid
  · rw [heq]
    exact h.created hid hnone
  · rw [heq]
    exact h.update path hchange

theorem run (h : Registry s) (commands : List Command) : Registry (s.run commands) := by
  induction commands generalizing s with
  | nil => exact h
  | cons command commands ih => exact ih (h.perform command)

theorem start {draw : Draw} {settings : Settings} (h : start draw settings = .ok s) :
    Registry s ∧ s.settings = settings ∧ s.components = [] := by
  have hids := IdsSound.start h
  rw [Session.start] at h
  rcases issue_cases draw
      { settings, components := [], index := [], issued := [], routine := [] } with
    ⟨fault, hissue⟩ | ⟨id, hissue, _⟩
  · rw [hissue] at h
    cases h
  · rw [hissue] at h
    obtain rfl := Except.ok.inj h
    refine ⟨⟨hids, fun path i => ?_, ⟨id, List.mem_cons_self, rfl, ?_⟩, ?_, ?_⟩, rfl, rfl⟩
    · rw [position?, List.lookup_nil, List.map_nil, List.getElem?_nil]
      constructor <;> intro h <;> cases h
    all_goals exact fun c hc => absurd hc List.not_mem_nil

end Registry

/-! ### Runs -/

theorem run_append (commands later : List Command) (s : Session) :
    s.run (commands ++ later) = (s.run commands).run later :=
  List.foldl_append

def identities (s : Session) : List (Text × ModuleId × Text) :=
  s.components.map Component.identity

theorem identities_perform (command : Command) (s : Session) :
    s.identities <+: (s.perform command).identities := by
  rcases s.perform_cases command with
    heq | ⟨id, _, heq⟩ | ⟨id, path, _, _, heq⟩ | ⟨path, change, hchange, heq⟩
  · rw [heq]
  · rw [heq]
    exact List.prefix_refl _
  · rw [heq, identities, identities, created, List.map_append]
    exact List.prefix_append _ _
  · rw [heq, identities, identities, map_update hchange.identity]

theorem identities_run (commands : List Command) (s : Session) :
    s.identities <+: (s.run commands).identities := by
  induction commands generalizing s with
  | nil => exact List.prefix_refl _
  | cons command commands ih => exact (s.identities_perform command).trans (ih _)

theorem settings_perform (command : Command) (s : Session) :
    (s.perform command).settings = s.settings := by
  rcases s.perform_cases command with
    heq | ⟨id, _, heq⟩ | ⟨id, path, _, _, heq⟩ | ⟨path, change, _, heq⟩
  · rw [heq]
  · rw [heq]
  · rw [heq, created]
  · rw [heq, update_eq_with]

theorem settings_run (commands : List Command) (s : Session) :
    (s.run commands).settings = s.settings := by
  induction commands generalizing s with
  | nil => rfl
  | cons command commands ih => exact (ih _).trans (s.settings_perform command)

/-- Whatever is done with a session, and whether it fails or not, the registry is consistent, no path
and no placeholder is that of two components, and later commands only add to what the components are
known by. -/
theorem registry_of_run {draw : Draw} {settings : Settings} {started : Session}
    (hstart : start draw settings = .ok started) (commands later : List Command) :
    let s := started.run commands
    Registry s ∧ s.settings = settings ∧ (s.components.map (·.path)).Nodup ∧
      (s.components.map (·.placeholder)).Nodup ∧
      s.identities <+: (started.run (commands ++ later)).identities := by
  intro s
  obtain ⟨hstarted, hsettings, _⟩ := Registry.start hstart
  have hregistry : Registry s := hstarted.run commands
  refine ⟨hregistry, (settings_run commands started).trans hsettings, hregistry.nodup_paths,
    hregistry.nodup_placeholders, ?_⟩
  rw [run_append]
  exact s.identities_run later

/-- With one letter for ids and one retry: the first component is not created, as the routine has the
only id that is drawn for it, and the second one gets the id of its second try. -/
theorem registry_of_run_collision :
    let settings : Settings := { placeholderLength := 1, placeholderRetries := 2 }
    let commands : List Command :=
      [.getOrCreate (fun _ _ => 0) "/A.vue".toList,
        .getOrCreate (fun attempt _ => if attempt = 0 then 0 else 1) "/B.vue".toList,
        .recordDependency "/B.vue".toList "/B.vue".toList "./C.js".toList,
        .recordStyle "/B.vue".toList "/B.vue?index=0".toList "p \x7b\x7d".toList]
    let started : Session :=
      { settings, components := [], index := [], issued := [['a']], routine := "_vpis_a".toList }
    start (fun _ _ => 0) settings = .ok started ∧ Registry (started.run commands) ∧
      (started.run commands).components.map (fun c => (c.id, c.path, c.files.length, c.css.length))
        = [("__vpsi_b".toList, "/B.vue".toList, 1, 1)] := by
  intro settings commands started
  have hstart : start (fun _ _ => 0) settings = .ok started := rfl
  exact ⟨hstart, (registry_of_run hstart commands []).1, by decide +kernel⟩

end Session

end ComponentStyles
