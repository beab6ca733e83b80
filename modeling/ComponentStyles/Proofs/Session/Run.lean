import ComponentStyles.Proofs.Component.Placeholder
import Mathlib.Tactic.Tauto

/-!
# Runs of a session

A session starts and is then changed by commands, some of which may fail. Whatever the draws and the
commands, its components have issued ids (`Reachable.issued`).

Proof. The invariant `IdsSound` says that the issued ids are such as are drawn, that the id of each
component is one of them behind the common start, and that the ids of the components are distinct.
An issue gives the first id of its tries that has not been issued before (`issue_eq_ok_iff`), or fails
(`issue_eq_error_iff`). Only `getOrCreate` makes a component, with an id that has just been issued and
is therefore none of the ids of the others.
-/

namespace ComponentStyles

/-! ### Draws -/

namespace Draw

theorem letter_mem (i : Fin 36) : letter i ∈ letters := by
  have hlength : letters.length = 36 := by decide +kernel
  have hi : i.val < letters.length := by omega
  rw [letter, List.getD_eq_getElem?_getD, List.getElem?_eq_getElem hi]
  exact List.getElem_mem hi

theorem yields_candidate (draw : Draw) (length attempt : Nat) :
    Yields length (draw.candidate length attempt) := by
  refine ⟨by rw [candidate, List.length_map, List.length_range], fun ch hch => ?_⟩
  obtain ⟨place, _, rfl⟩ := List.mem_map.mp hch
  exact letter_mem _

theorem firstFresh_eq_find? (draw : Draw) (length : Nat) (issued : List Text)
    (attempt tries : Nat) :
    draw.firstFresh length issued attempt tries
      = ((List.range' attempt tries).find? fun i => draw.candidate length i ∉ issued).map
          (draw.candidate length) := by
  induction tries generalizing attempt with
  | zero => rfl
  | succ tries ih =>
    show (if draw.candidate length attempt ∈ issued then
        draw.firstFresh length issued (attempt + 1) tries
      else some (draw.candidate length attempt)) = _
    rw [List.range'_succ, List.find?_cons]
    by_cases h : draw.candidate length attempt ∈ issued
    · simp [h, ih]
    · simp [h]

/-- Whether a try is the first one that yields an id that has not been issued. -/
def IsFirstFresh (draw : Draw) (length : Nat) (issued : List Text) (i : Nat) : Prop :=
  draw.candidate length i ∉ issued ∧ ∀ j < i, draw.candidate length j ∈ issued

theorem firstFresh_eq_some_iff {draw : Draw} {length : Nat} {issued : List Text} {tries : Nat}
    {id : Text} :
    draw.firstFresh length issued 0 tries = some id ↔
      ∃ i < tries, draw.IsFirstFresh length issued i ∧ draw.candidate length i = id := by
  rw [firstFresh_eq_find?, ← List.range_eq_range', Option.map_eq_some_iff]
  apply exists_congr
  intro i
  have hfresh : (decide (draw.candidate length i ∉ issued) = true) ↔
      draw.candidate length i ∉ issued := decide_eq_true_iff
  have hissued : (∀ j, j < i → (!decide (draw.candidate length j ∉ issued)) = true) ↔
      ∀ j < i, draw.candidate length j ∈ issued := by
    simp
  rw [List.find?_range_eq_some, List.mem_range, IsFirstFresh, hfresh, hissued]
  tauto

theorem firstFresh_eq_none_iff {draw : Draw} {length : Nat} {issued : List Text} {tries : Nat} :
    draw.firstFresh length issued 0 tries = none ↔
      ∀ i < tries, draw.candidate length i ∈ issued := by
  rw [firstFresh_eq_find?, ← List.range_eq_range', Option.map_eq_none_iff, List.find?_eq_none]
  simp

end Draw

/-! ### Dependencies -/

theorem Component.recordDependency_id (c : Component) (importer : ModuleId) (specifier : Text) :
    (c.recordDependency importer specifier).2.id = c.id := by
  rw [recordDependency]
  split
  · rfl
  · split <;> rfl

theorem Component.recordDependency_placeholder (c : Component) (importer : ModuleId)
    (specifier : Text) :
    (c.recordDependency importer specifier).2.placeholder = c.placeholder := by
  rw [recordDependency]
  split
  · rfl
  · split <;> rfl

namespace Session

/-! ### Commands -/

inductive Command where
  | issue (draw : Draw)
  | getOrCreate (draw : Draw) (path : ModuleId)
  | setShape (path : ModuleId) (shape : Option String)
  | recordDependency (path importer : ModuleId) (specifier : Text)
  | recordStyle (path id : ModuleId) (text : Text)

def perform (command : Command) (s : Session) : Session :=
  match command with
  | .issue draw => (s.issue draw).2
  | .getOrCreate draw path => (s.getOrCreate draw path).2
  | .setShape path shape => s.update path fun c => { c with shape }
  | .recordDependency path importer specifier =>
    s.update path fun c => (c.recordDependency importer specifier).2
  | .recordStyle path id text => s.update path (Component.recordStyle s.settings id text)

def run (commands : List Command) (s : Session) : Session :=
  commands.foldl (fun s command => s.perform command) s

/-- A session that commands lead to from a start. -/
def Reachable (s : Session) : Prop :=
  ∃ draw settings commands started, start draw settings = .ok started ∧ s = started.run commands

/-! ### Steps -/

theorem issue_eq_ok_iff {s s' : Session} {draw : Draw} {id : Text} :
    s.issue draw = (.ok id, s') ↔
      ∃ i < s.settings.placeholderRetries,
        draw.IsFirstFresh s.settings.placeholderLength s.issued i ∧
          draw.candidate s.settings.placeholderLength i = id ∧
            s' = { s with issued := id :: s.issued } := by
  have hissue : s.issue draw = (.ok id, s') ↔
      draw.firstFresh s.settings.placeholderLength s.issued 0 s.settings.placeholderRetries = some id
        ∧ s' = { s with issued := id :: s.issued } := by
    rw [issue]
    cases draw.firstFresh s.settings.placeholderLength s.issued 0 s.settings.placeholderRetries with
    | none => simp
    | some id' =>
      rw [Prod.mk.injEq, Except.ok.injEq, Option.some.injEq]
      constructor
      · rintro ⟨rfl, rfl⟩
        exact ⟨rfl, rfl⟩
      · rintro ⟨rfl, rfl⟩
        exact ⟨rfl, rfl⟩
  rw [hissue, Draw.firstFresh_eq_some_iff]
  constructor
  · rintro ⟨⟨i, hi, hfirst, hid⟩, hs⟩
    exact ⟨i, hi, hfirst, hid, hs⟩
  · rintro ⟨i, hi, hfirst, hid, hs⟩
    exact ⟨⟨i, hi, hfirst, hid⟩, hs⟩

theorem issue_eq_error_iff {s s' : Session} {draw : Draw} {fault : Fault} :
    s.issue draw = (.error fault, s') ↔
      (∀ i < s.settings.placeholderRetries,
        draw.candidate s.settings.placeholderLength i ∈ s.issued) ∧
          fault = .idsExhausted s.settings.placeholderRetries ∧ s' = s := by
  rw [← Draw.firstFresh_eq_none_iff, issue]
  cases draw.firstFresh s.settings.placeholderLength s.issued 0 s.settings.placeholderRetries with
  | some id => simp
  | none =>
    rw [Prod.mk.injEq, Except.error.injEq]
    constructor
    · rintro ⟨rfl, rfl⟩
      exact ⟨rfl, rfl, rfl⟩
    · rintro ⟨_, rfl, rfl⟩
      exact ⟨rfl, rfl⟩

theorem issue_cases (draw : Draw) (s : Session) :
    (∃ fault, s.issue draw = (.error fault, s)) ∨
      ∃ id, s.issue draw = (.ok id, { s with issued := id :: s.issued }) ∧
        Draw.Yields s.settings.placeholderLength id ∧ id ∉ s.issued := by
  rcases hissue : s.issue draw with ⟨fault | id, s'⟩
  · obtain ⟨_, _, rfl⟩ := issue_eq_error_iff.mp hissue
    exact Or.inl ⟨fault, rfl⟩
  · obtain ⟨i, _, hfirst, rfl, rfl⟩ := issue_eq_ok_iff.mp hissue
    exact Or.inr ⟨_, rfl, draw.yields_candidate _ i, hfirst.1⟩

theorem getOrCreate_of_get? {s : Session} {path : ModuleId} {c : Component}
    (h : s.get? path = some c) (draw : Draw) : s.getOrCreate draw path = (.ok c, s) := by
  rw [getOrCreate, h]

theorem getOrCreate_cases (draw : Draw) (path : ModuleId) (s : Session) :
    (∃ c, s.get? path = some c ∧ s.getOrCreate draw path = (.ok c, s)) ∨
      (∃ fault, s.get? path = none ∧ s.getOrCreate draw path = (.error fault, s)) ∨
      ∃ id, s.get? path = none ∧ Draw.Yields s.settings.placeholderLength id ∧ id ∉ s.issued ∧
        s.getOrCreate draw path
          = (.ok (Component.fresh (Component.idStart ++ id) path),
              { s with
                issued := id :: s.issued
                components := s.components ++ [Component.fresh (Component.idStart ++ id) path]
                index := s.index ++ [(path, s.components.length)] }) := by
  rw [getOrCreate]
  cases hget : s.get? path with
  | some c => exact Or.inl ⟨c, rfl, rfl⟩
  | none =>
    rcases s.issue_cases draw with ⟨fault, hissue⟩ | ⟨id, hissue, hyields, hfresh⟩
    · exact Or.inr (Or.inl ⟨fault, rfl, by simp only [hissue]⟩)
    · exact Or.inr (Or.inr ⟨id, rfl, hyields, hfresh, by simp only [hissue]⟩)

theorem update_cases (path : ModuleId) (change : Component → Component) (s : Session) :
    s.update path change = s ∨
      ∃ front c back, s.components = front ++ c :: back ∧
        s.update path change = { s with components := front ++ change c :: back } := by
  rw [update]
  split
  · rename_i i _
    by_cases hi : i < s.components.length
    · obtain ⟨front, c, back, heq, _, hmodify⟩ := List.exists_of_modify change hi
      exact Or.inr ⟨front, c, back, heq, by rw [hmodify]⟩
    · rw [List.modify_eq_self (by omega)]
      exact Or.inl rfl
  · exact Or.inl rfl

/-! ### The ids of components -/

/-- What holds of the ids of a session. -/
structure IdsSound (s : Session) : Prop where
  drawn : ∀ id ∈ s.issued, Draw.Yields s.settings.placeholderLength id
  ids : ∀ c ∈ s.components, ∃ id ∈ s.issued, c.id = Component.idStart ++ id
  placeholders : ∀ c ∈ s.components, c.placeholder = Component.placeholderOf c.id
  distinct : (s.components.map (·.id)).Nodup

theorem IdsSound.issued {s : Session} (h : IdsSound s) :
    Component.Issued s.settings.placeholderLength s.components where
  drawn c hc := by
    obtain ⟨id, hid, heq⟩ := h.ids c hc
    exact ⟨id, h.drawn id hid, heq⟩
  placeholder := h.placeholders
  distinct := h.distinct

theorem IdsSound.issue {s : Session} (h : IdsSound s) {id : Text}
    (hyields : Draw.Yields s.settings.placeholderLength id) :
    IdsSound { s with issued := id :: s.issued } where
  drawn id' hid' := by
    rcases List.mem_cons.mp hid' with rfl | hid'
    · exact hyields
    · exact h.drawn id' hid'
  ids c hc := by
    obtain ⟨id', hid', heq⟩ := h.ids c hc
    exact ⟨id', List.mem_cons_of_mem id hid', heq⟩
  placeholders := h.placeholders
  distinct := h.distinct

theorem IdsSound.create {s : Session} (h : IdsSound s) {id : Text} (path : ModuleId)
    (hyields : Draw.Yields s.settings.placeholderLength id) (hfresh : id ∉ s.issued)
    (index : List (ModuleId × Nat)) :
    IdsSound
      { s with
        issued := id :: s.issued
        components := s.components ++ [Component.fresh (Component.idStart ++ id) path]
        index } where
  drawn := (h.issue hyields).drawn
  ids c hc := by
    rcases List.mem_append.mp hc with hc | hc
    · exact (h.issue hyields).ids c hc
    · rw [List.mem_singleton.mp hc]
      exact ⟨id, List.mem_cons_self, rfl⟩
  placeholders c hc := by
    rcases List.mem_append.mp hc with hc | hc
    · exact h.placeholders c hc
    · rw [List.mem_singleton.mp hc]
      rfl
  distinct := by
    rw [List.map_append, List.nodup_append]
    refine ⟨h.distinct, List.nodup_singleton _, ?_⟩
    intro old hold new hnew heq
    obtain ⟨c, hc, rfl⟩ := List.mem_map.mp hold
    obtain ⟨id', hid', hc'⟩ := h.ids c hc
    rw [List.map_singleton, List.mem_singleton] at hnew
    rw [hc', hnew] at heq
    exact hfresh (List.append_cancel_left heq ▸ hid')

theorem IdsSound.update {s : Session} (h : IdsSound s) (path : ModuleId)
    {change : Component → Component} (hid : ∀ c, (change c).id = c.id)
    (hplaceholder : ∀ c, (change c).placeholder = c.placeholder) :
    IdsSound (s.update path change) := by
  rcases s.update_cases path change with heq | ⟨front, c, back, hcs, heq⟩
  · rw [heq]
    exact h
  · have hc : c ∈ s.components := by simp [hcs]
    have hmem : ∀ d ∈ front ++ change c :: back, d ∈ s.components ∨ d = change c := by
      intro d hd
      rw [hcs]
      simp only [List.mem_append, List.mem_cons] at hd ⊢
      tauto
    rw [heq]
    refine ⟨h.drawn, fun d hd => ?_, fun d hd => ?_, ?_⟩
    · rcases hmem d hd with hd | rfl
      · exact h.ids d hd
      · rw [hid]
        exact h.ids c hc
    · rcases hmem d hd with hd | rfl
      · exact h.placeholders d hd
      · rw [hid, hplaceholder]
        exact h.placeholders c hc
    · have hdistinct := h.distinct
      rw [hcs] at hdistinct
      simpa [hid] using hdistinct

theorem IdsSound.perform {s : Session} (h : IdsSound s) (command : Command) :
    IdsSound (s.perform command) := by
  cases command with
  | issue draw =>
    rw [Session.perform]
    rcases s.issue_cases draw with ⟨fault, hissue⟩ | ⟨id, hissue, hyields, _⟩
    · rw [hissue]
      exact h
    · rw [hissue]
      exact h.issue hyields
  | getOrCreate draw path =>
    rw [Session.perform]
    rcases s.getOrCreate_cases draw path with
      ⟨c, _, heq⟩ | ⟨fault, _, heq⟩ | ⟨id, _, hyields, hfresh, heq⟩
    · rw [heq]
      exact h
    · rw [heq]
      exact h
    · rw [heq]
      exact h.create path hyields hfresh _
  | setShape path shape => exact h.update path (fun _ => rfl) fun _ => rfl
  | recordDependency path importer specifier =>
    exact h.update path (fun c => Component.recordDependency_id c importer specifier)
      fun c => Component.recordDependency_placeholder c importer specifier
  | recordStyle path id text => exact h.update path (fun _ => rfl) fun _ => rfl

theorem IdsSound.run {s : Session} (h : IdsSound s) (commands : List Command) :
    IdsSound (s.run commands) := by
  induction commands generalizing s with
  | nil => exact h
  | cons command commands ih => exact ih (h.perform command)

theorem IdsSound.start {draw : Draw} {settings : Settings} {s : Session}
    (h : start draw settings = .ok s) : IdsSound s := by
  have hnew : IdsSound { settings, components := [], index := [], issued := [], routine := [] } :=
    ⟨fun _ hid => absurd hid List.not_mem_nil, fun _ hc => absurd hc List.not_mem_nil,
      fun _ hc => absurd hc List.not_mem_nil, List.nodup_nil⟩
  rw [Session.start] at h
  rcases issue_cases draw
      { settings, components := [], index := [], issued := [], routine := [] } with
    ⟨fault, hissue⟩ | ⟨id, hissue, hyields, _⟩
  · rw [hissue] at h
    cases h
  · rw [hissue] at h
    obtain rfl := Except.ok.inj h
    have hissued := hnew.issue hyields
    exact ⟨hissued.drawn, hissued.ids, hissued.placeholders, hissued.distinct⟩

theorem Reachable.issued {s : Session} (h : Reachable s) :
    Component.Issued s.settings.placeholderLength s.components := by
  obtain ⟨draw, settings, commands, started, hstart, rfl⟩ := h
  exact ((IdsSound.start hstart).run commands).issued

end Session

end ComponentStyles
