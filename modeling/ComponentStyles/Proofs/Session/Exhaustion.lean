import ComponentStyles.Proofs.Session.Registry
import Mathlib.Algebra.Group.Nat.Defs
import Mathlib.Data.List.Perm.Subperm

/-!
# Ids that run out

A session issues the first id of its tries that it has not issued before, and fails only if it has
issued all of them. So no id is issued twice, and there are at most as many as there are texts of their
length: once these are used up no component can be created any more, while the known ones are still
found (`issued_of_run`).

Proof. A command issues at most one id, a new one (`issued_perform`). The issued ids are therefore
distinct members of the list of all texts of their length (`Draw.texts`); if they are as many, they are
all of them.
-/

namespace ComponentStyles

namespace Draw

/-! ### All ids -/

/-- All texts of a length that can be drawn. -/
def texts : Nat → List Text
  | 0 => [[]]
  | length + 1 => letters.flatMap fun ch => (texts length).map (ch :: ·)

theorem length_texts (length : Nat) : (texts length).length = 36 ^ length := by
  have hletters : letters.length = 36 := by decide +kernel
  induction length with
  | zero => rfl
  | succ length ih =>
    have hsum : ∀ chars : Text, (chars.flatMap fun ch => (texts length).map (ch :: ·)).length
        = chars.length * 36 ^ length := by
      intro chars
      induction chars with
      | nil => simp
      | cons ch chars ihchars =>
        rw [List.flatMap_cons, List.length_append, List.length_map, ihchars, ih, List.length_cons,
          Nat.succ_mul, Nat.add_comm]
    rw [texts, hsum, hletters, Nat.pow_succ, Nat.mul_comm]

theorem mem_texts_iff {length : Nat} {t : Text} : t ∈ texts length ↔ Yields length t := by
  induction length generalizing t with
  | zero =>
    rw [texts, List.mem_singleton, Yields, List.length_eq_zero_iff]
    constructor
    · rintro rfl
      exact ⟨rfl, fun ch hch => absurd hch List.not_mem_nil⟩
    · exact fun h => h.1
  | succ length ih =>
    simp only [texts, List.mem_flatMap, List.mem_map, ih]
    constructor
    · rintro ⟨ch, hch, rest, ⟨hlength, hrest⟩, rfl⟩
      exact ⟨congrArg Nat.succ hlength, List.forall_mem_cons.mpr ⟨hch, hrest⟩⟩
    · rintro ⟨hlength, hletters⟩
      cases t with
      | nil => cases hlength
      | cons ch rest =>
        obtain ⟨hch, hrest⟩ := List.forall_mem_cons.mp hletters
        exact ⟨ch, hch, rest, ⟨Nat.succ.inj hlength, hrest⟩, rfl⟩

theorem subperm_texts {length : Nat} {ids : List Text} (hnodup : ids.Nodup)
    (hids : ∀ id ∈ ids, Yields length id) : ids.Subperm (texts length) := by
  apply List.subperm_of_subset hnodup
  intro id hid
  exact mem_texts_iff.mpr (hids id hid)

theorem length_le_of_yields {length : Nat} {ids : List Text} (hnodup : ids.Nodup)
    (hids : ∀ id ∈ ids, Yields length id) : ids.length ≤ 36 ^ length := by
  rw [← length_texts]
  exact (subperm_texts hnodup hids).length_le

theorem mem_of_length_eq {length : Nat} {ids : List Text} (hnodup : ids.Nodup)
    (hids : ∀ id ∈ ids, Yields length id) (hlength : ids.length = 36 ^ length) {id : Text}
    (hid : Yields length id) : id ∈ ids := by
  have hperm : ids.Perm (texts length) :=
    (subperm_texts hnodup hids).perm_of_length_le (by rw [length_texts, hlength])
  exact hperm.mem_iff.mpr (mem_texts_iff.mpr hid)

end Draw

namespace Session

variable {s : Session} {draw : Draw} {settings : Settings} {path : ModuleId}

/-! ### All issues of a run -/

theorem issued_perform (command : Command) (s : Session) :
    (s.perform command).issued = s.issued ∨
      ∃ id, s.Issuable id ∧ (s.perform command).issued = id :: s.issued := by
  rcases s.perform_cases command with
    heq | ⟨id, hid, heq⟩ | ⟨id, path, hid, _, heq⟩ | ⟨path, change, _, heq⟩
  · exact Or.inl (by rw [heq])
  · exact Or.inr ⟨id, hid, by rw [heq]⟩
  · exact Or.inr ⟨id, hid, by rw [heq]; rfl⟩
  · exact Or.inl (by rw [heq, update_eq_with])

theorem issued_suffix_run (commands : List Command) (s : Session) :
    s.issued <:+ (s.run commands).issued := by
  induction commands generalizing s with
  | nil => exact List.suffix_refl _
  | cons command commands ih =>
    refine List.IsSuffix.trans ?_ (ih (s.perform command))
    rcases issued_perform command s with heq | ⟨id, _, heq⟩
    · rw [heq]
    · rw [heq]
      exact List.suffix_cons id _

theorem nodup_issued_run (h : s.issued.Nodup) (commands : List Command) :
    (s.run commands).issued.Nodup := by
  induction commands generalizing s with
  | nil => exact h
  | cons command commands ih =>
    apply ih
    rcases issued_perform command s with heq | ⟨id, hid, heq⟩
    · rwa [heq]
    · rw [heq]
      exact List.nodup_cons.mpr ⟨hid.2, h⟩

theorem exists_issued_of_start (h : start draw settings = .ok s) : ∃ id, s.issued = [id] := by
  rw [start] at h
  split at h
  · rename_i id s' hissue
    obtain ⟨_, _, _, _, rfl⟩ := issue_eq_ok_iff.mp hissue
    obtain rfl := Except.ok.inj h
    exact ⟨id, rfl⟩
  · cases h

/-! ### Creation -/

theorem getOrCreate_of_exhausted (hnone : s.get? path = none)
    (hall : ∀ id, Draw.Yields s.settings.placeholderLength id → id ∈ s.issued) (draw : Draw) :
    s.getOrCreate draw path = (.error (.idsExhausted s.settings.placeholderRetries), s) := by
  have hissue : s.issue draw = (.error (.idsExhausted s.settings.placeholderRetries), s) := by
    apply issue_eq_error_iff.mpr
    exact ⟨fun i _ => hall _ (draw.yields_candidate _ i), rfl, rfl⟩
  rw [getOrCreate, hnone]
  simp only [hissue]

/-- What a session issues is the first of its tries that is new, and it fails only if none is. Whatever
is done with it, no id is issued twice, there are at most as many as there are texts of their length, and
with the last of them new components come to an end: a file is then known, or refused. -/
theorem issued_of_run {first : Draw} {started : Session}
    (hstart : start first settings = .ok started) (commands later : List Command) :
    (∀ (s : Session) (draw : Draw),
      (∀ id s', s.issue draw = (.ok id, s') ↔
        ∃ i < s.settings.placeholderRetries,
          draw.IsFirstFresh s.settings.placeholderLength s.issued i ∧
            draw.candidate s.settings.placeholderLength i = id ∧
              s' = { s with issued := id :: s.issued }) ∧
      ∀ fault s', s.issue draw = (.error fault, s') ↔
        (∀ i < s.settings.placeholderRetries,
          draw.candidate s.settings.placeholderLength i ∈ s.issued) ∧
            fault = .idsExhausted s.settings.placeholderRetries ∧ s' = s) ∧
    let s := started.run commands
    s.issued.Nodup ∧ s.issued <:+ (started.run (commands ++ later)).issued ∧
      s.issued.length ≤ 36 ^ settings.placeholderLength ∧
      (∃ id ∈ s.issued, s.routine = routineStart ++ id) ∧
      (s.issued.length = 36 ^ settings.placeholderLength →
        ∀ draw path, path ∉ s.components.map (·.path) →
          s.getOrCreate draw path = (.error (.idsExhausted settings.placeholderRetries), s)) ∧
      ∀ c ∈ s.components, ∀ draw, s.getOrCreate draw c.path = (.ok c, s) := by
  refine ⟨fun s draw => ⟨fun id s' => issue_eq_ok_iff, fun fault s' => issue_eq_error_iff⟩, ?_⟩
  intro s
  obtain ⟨hstarted, hsame, _⟩ := Registry.start hstart
  obtain ⟨id, hissued⟩ := exists_issued_of_start hstart
  have hregistry : s.Registry := hstarted.run commands
  have hsettings : s.settings = settings := (settings_run commands started).trans hsame
  have hnodup : s.issued.Nodup := nodup_issued_run (by rw [hissued]; exact List.nodup_singleton id) _
  have hdrawn := hregistry.drawn
  rw [hsettings] at hdrawn
  refine ⟨hnodup, ?_, Draw.length_le_of_yields hnodup hdrawn, ?_, ?_, ?_⟩
  · rw [run_append]
    exact issued_suffix_run later s
  · obtain ⟨id, hid, hroutine, _⟩ := hregistry.routine
    exact ⟨id, hid, hroutine⟩
  · intro hfull draw path hpath
    have hnone : s.get? path = none := by
      apply hregistry.get?_eq_none_iff.mpr
      rintro c hc rfl
      exact hpath (List.mem_map_of_mem hc)
    have hall : ∀ id, Draw.Yields s.settings.placeholderLength id → id ∈ s.issued := by
      intro id hid
      exact Draw.mem_of_length_eq hnodup hdrawn hfull (hsettings ▸ hid)
    have hrefused := getOrCreate_of_exhausted hnone hall draw
    rwa [hsettings] at hrefused
  · intro c hc draw
    exact getOrCreate_of_get? (hregistry.get?_eq_some_iff.mpr ⟨hc, rfl⟩) draw

/-- With ids of one letter, the routine and a first component leave 34 ids; once these are gone as well,
a second component is refused whatever is drawn, and the first one is still found. -/
theorem issued_of_run_one_letter :
    let settings : Settings := { placeholderLength := 1, placeholderRetries := 2 }
    let constant (n : Nat) : Draw := fun _ _ => Fin.ofNat 36 n
    let commands := .getOrCreate (constant 1) "/A.vue".toList
      :: (List.range 34).map fun n => .issue (constant (n + 2))
    ∃ started, start (constant 0) settings = .ok started ∧
      let s := started.run commands
      s.issued.length = 36 ∧
        (∀ draw, s.getOrCreate draw "/B.vue".toList = (.error (.idsExhausted 2), s)) ∧
        ∀ c ∈ s.components, ∀ draw, s.getOrCreate draw c.path = (.ok c, s) := by
  intro settings constant commands
  let started : Session :=
    { settings, components := [], index := [], issued := [['a']], routine := "_vpis_a".toList }
  have hstart : start (constant 0) settings = .ok started := rfl
  refine ⟨started, hstart, ?_⟩
  intro s
  have hlength : s.issued.length = 36 := by decide +kernel
  have hnew : "/B.vue".toList ∉ s.components.map (·.path) := by decide +kernel
  obtain ⟨_, _, _, _, _, hrefused, hfound⟩ := issued_of_run hstart commands []
  exact ⟨hlength, fun draw => hrefused hlength draw _ hnew, hfound⟩

end Session

end ComponentStyles
