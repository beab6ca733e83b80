import ComponentStyles.Proofs.Bundle.Callee

/-!
# Where the routine is defined

A bundle is promised the definition of the routine in every chunk that calls it
(`RoutineDelivered`). Two searches decide this: the name is taken from the first occurrence of a
placeholder in a chunk, whereas a chunk is found to call the routine by all occurrences.
`routineDelivered_iff`: the promise is kept exactly on those bundles in which the first search finds
a name wherever the second one finds a call. It is broken when a placeholder is mentioned before the
call and no other chunk or placeholder shows the name (`not_routineDelivered_of_mention`).

Proof. The name is found iff some first occurrence is called with (`isSome_routineName?_iff`), every
such occurrence is one that the second search finds (`callsRoutine_of_showsName`), and with a name
at hand each chunk that calls the routine gets its definition (`finish_getElem?`).
-/

namespace ComponentStyles.Bundle

variable {cs : List Component}

def codes (chunks : List Chunk) : List Text := chunks.filterMap Chunk.code

/-- The first occurrence of some placeholder is the first argument of a call. -/
def ShowsName (cs : List Component) (code : Text) : Prop :=
  ∃ c ∈ cs, ∃ front, Text.IsBeforeFirst c.placeholder code front ∧
    (callee? code front.byteLength).isSome = true

/-- If a chunk calls the routine, then the routine has a name and every chunk that calls it begins
with its definition; without such a chunk there is no name. -/
def RoutineDelivered (cs : List Component) (chunks : List Chunk) : Prop :=
  ((∃ code ∈ codes chunks, callsRoutine cs code = true) →
    ∃ name, (finish cs chunks).1 = some name ∧
      ∀ (i : Nat) (chunk : Chunk) (code : Text), chunks[i]? = some chunk →
        chunk.code = some code → callsRoutine cs code = true →
        ∃ rest, (finish cs chunks).2[i]?
          = some { chunk with code := some (routineSource name ++ '\n' :: rest) }) ∧
  ((∀ code ∈ codes chunks, callsRoutine cs code = false) → (finish cs chunks).1 = none)

theorem isSome_calleeIn?_iff {code : Text} :
    (calleeIn? cs code).isSome = true ↔ ShowsName cs code := by
  rw [calleeIn?, List.findSome?_isSome_iff]
  refine exists_congr fun c => and_congr_right fun _ => ?_
  constructor
  · intro h
    obtain ⟨name, hname⟩ := Option.isSome_iff_exists.mp h
    obtain ⟨offset, hoffset, hcall⟩ := Option.bind_eq_some_iff.mp hname
    obtain ⟨front, hfirst, rfl⟩ := Text.offsetOf?_eq_some_iff.mp hoffset
    exact ⟨front, hfirst, by rw [hcall]; rfl⟩
  · rintro ⟨front, hfirst, hcall⟩
    rwa [Text.offsetOf?_eq_some_iff.mpr ⟨front, hfirst, rfl⟩, Option.bind_some]

theorem isSome_routineName?_iff {chunks : List Chunk} :
    (routineName? cs chunks).isSome = true ↔ ∃ code ∈ codes chunks, ShowsName cs code := by
  rw [routineName?, List.findSome?_isSome_iff]
  constructor
  · rintro ⟨chunk, hchunk, h⟩
    obtain ⟨name, hname⟩ := Option.isSome_iff_exists.mp h
    obtain ⟨code, hcode, hcallee⟩ := Option.bind_eq_some_iff.mp hname
    exact ⟨code, List.mem_filterMap.mpr ⟨chunk, hchunk, hcode⟩,
      isSome_calleeIn?_iff.mp (by rw [hcallee]; rfl)⟩
  · rintro ⟨code, hcode, hshows⟩
    obtain ⟨chunk, hchunk, hcode⟩ := List.mem_filterMap.mp hcode
    exact ⟨chunk, hchunk, by rw [hcode]; exact isSome_calleeIn?_iff.mpr hshows⟩

theorem callsRoutine_of_showsName {code : Text} (h : ShowsName cs code) :
    callsRoutine cs code = true := by
  obtain ⟨c, hc, front, hfirst, hcall⟩ := h
  have hoffset : Text.offsetOf? c.placeholder code = some front.byteLength :=
    Text.offsetOf?_eq_some_iff.mpr ⟨front, hfirst, rfl⟩
  rw [callsRoutine, List.any_eq_true]
  exact ⟨c, hc, List.any_eq_true.mpr ⟨_, List.mem_of_mem_head? hoffset, hcall⟩⟩

theorem finish_getElem? (chunks : List Chunk) (i : Nat) :
    (finish cs chunks).2[i]?
      = chunks[i]?.map fun chunk =>
          { chunk with code := chunk.code.map (finishText cs (routineName? cs chunks)) } := by
  rw [finish, List.getElem?_map]

/-- The promise is kept exactly where a placeholder shows the name of the routine at its first
occurrence in some chunk, or no chunk calls the routine. -/
theorem routineDelivered_iff (cs : List Component) (chunks : List Chunk) :
    RoutineDelivered cs chunks ↔
      ((∃ code ∈ codes chunks, callsRoutine cs code = true) →
        ∃ code ∈ codes chunks, ShowsName cs code) := by
  constructor
  · rintro ⟨hcalls, _⟩ hcall
    obtain ⟨name, hname, _⟩ := hcalls hcall
    exact isSome_routineName?_iff.mp (Option.isSome_iff_exists.mpr ⟨name, hname⟩)
  · refine fun hshown => ⟨fun hcall => ?_, fun hnone => ?_⟩
    · have hsome := isSome_routineName?_iff.mpr (hshown hcall)
      obtain ⟨name, hname⟩ := Option.isSome_iff_exists.mp hsome
      refine ⟨name, hname, fun i chunk code hchunk hcode hcalls => ?_⟩
      refine ⟨(resolve cs code).2, ?_⟩
      rw [finish_getElem?, hchunk, Option.map_some, hcode, Option.map_some, hname, finishText,
        if_pos hcalls]
    · rw [← Option.not_isSome_iff_eq_none]
      intro hsome
      obtain ⟨code, hcode, hshows⟩ := isSome_routineName?_iff.mp hsome
      have hcalls := callsRoutine_of_showsName hshows
      rw [hnone code hcode] at hcalls
      exact absurd hcalls (by decide)

/-- A chunk that mentions the placeholder before the call is left without the routine. -/
theorem not_routineDelivered_of_mention :
    let c := Component.fresh "__vpsi_ab".toList "/A.vue".toList
    let code := "const s = \"".toList ++ c.placeholder ++ "\";\nf(\"".toList ++ c.placeholder
      ++ "\",\"".toList ++ c.id ++ "\");".toList
    ¬ RoutineDelivered [c] [{ fileName := "a.js", code := some code }] := by
  intro c code h
  have hcalls : callsRoutine [c] code = true := by decide +kernel
  obtain ⟨name, hname, _⟩ := h.1 ⟨code, List.mem_singleton_self _, hcalls⟩
  have hnone : (finish [c] [{ fileName := "a.js", code := some code }]).1 = none := by
    decide +kernel
  rw [hnone] at hname
  cases hname

end ComponentStyles.Bundle
