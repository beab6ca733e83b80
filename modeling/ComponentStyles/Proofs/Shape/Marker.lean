import ComponentStyles.Proofs.Injection.Boundary
import ComponentStyles.Proofs.Shape.Process

/-!
# Marker comments

A marked module is meant to say with a block comment where the call goes: the block gives way to the
guard and the call, and all else stays, a line comment with the same words included (`KeepsToBlocks`).
The comments of a module are told apart by their text alone, though, so the first comment with the
text of the marker is taken for it, of whichever kind it is. `keepsToBlocks_iff`: a marker keeps to
blocks in a module exactly if that first comment is a block or there is none.

Proof. If another comment comes first and the promise were kept, then the call would take the place of
two comments, with the same outcome for all components. So their guards would go to one place
(`Injection.eq_of_guards`), and the two comments would be one.
-/

namespace ComponentStyles

variable {code : Text} {id : ModuleId} {m : Module} {marker : Text} {comment : Comment}

/-- At the span stands a block comment that is the marker but for blanks around it. -/
def Span.IsMarkerBlock (marker code : Text) (s : Span) : Prop :=
  ∃ inside, Text.slice? s.start s.stop code = some ("/*".toList ++ inside ++ "*/".toList) ∧
    Text.trim inside = marker

theorem Module.commentText_block (inside : Text) :
    commentText ("/*".toList ++ inside ++ "*/".toList) = inside := by
  have hends : Text.endsWith ['*', '/'] (inside ++ ['*', '/']) = true :=
    List.isSuffixOf_iff_suffix.mpr (List.suffix_append ..)
  have htake : (inside ++ ['*', '/']).take ((inside ++ ['*', '/']).length - 2) = inside := by
    rw [List.length_append]
    exact List.take_left
  exact (if_pos hends).trans htake

theorem Module.text_of_isMarkerBlock [Script.Reader] (hm : ofText code id = .ok m)
    (hcomment : comment ∈ m.comments) (h : comment.span.IsMarkerBlock marker code) : comment.text = marker := by
  obtain ⟨script, _, _, hcomments, _⟩ := exists_script_of_ofText hm
  rw [hcomments] at hcomment
  obtain ⟨span, _, hspan⟩ := List.mem_filterMap.mp hcomment
  obtain ⟨raw, hraw, rfl⟩ := Option.map_eq_some_iff.mp hspan
  obtain ⟨inside, hslice, rfl⟩ := h
  obtain rfl := Option.some.inj (hraw.symm.trans hslice)
  exact congrArg Text.trim (commentText_block inside)

namespace Shape

theorem exists_first_block {comments : List Comment}
    (h : ∃ comment ∈ comments, comment.span.IsMarkerBlock marker code) :
    ∃ before first after, comments = before ++ first :: after ∧
      (∀ earlier ∈ before, ¬ earlier.span.IsMarkerBlock marker code) ∧
      first.span.IsMarkerBlock marker code := by
  classical
  obtain ⟨first, hfound⟩ : ∃ first, comments.find?
      (fun k => decide (k.span.IsMarkerBlock marker code)) = some first := by
    obtain ⟨comment, hmem, hmarks⟩ := h
    rw [← Option.isSome_iff_exists, List.find?_isSome]
    exact ⟨comment, hmem, decide_eq_true hmarks⟩
  obtain ⟨hfirst, before, after, hsplit, hbefore⟩ := List.find?_eq_some_iff_append.mp hfound
  exact ⟨before, first, after, hsplit, by simpa using hbefore, of_decide_eq_true hfirst⟩

theorem supports_of_find? (hfound : (m.comments.find? fun c => c.text == marker) = some comment) :
    (marked marker).supports m = true := by
  have htext := List.find?_some hfound
  exact List.any_eq_true.mpr ⟨comment, List.mem_of_find?_eq_some hfound, htext⟩

/-! ### The promise -/

section

variable [Script.Reader]

/-- What a marker is meant to do in a module: blocks mark it, and the first of them gives way to the
call. -/
structure KeepsToBlocks (marker code : Text) (id : ModuleId) (m : Module) : Prop where
  supports : (marked marker).supports m = true ↔
    ∃ comment ∈ m.comments, comment.span.IsMarkerBlock marker code
  replaces : ∀ before comment after, m.comments = before ++ comment :: after →
    (∀ earlier ∈ before, ¬ earlier.span.IsMarkerBlock marker code) →
    comment.span.IsMarkerBlock marker code →
    ∃ front raw rest, code = front ++ raw ++ rest ∧
      Text.byteLength front = comment.span.start ∧
      Text.byteLength (front ++ raw) = comment.span.stop ∧
      ∀ routine c, (marked marker).process routine c id code
        = .ok (front ++ c.guardDeclaration ++ c.guardedCall routine ++ rest)
  keeps : (∀ comment ∈ m.comments, ¬ comment.span.IsMarkerBlock marker code) →
    ∀ routine c, (marked marker).process routine c id code = .ok code

theorem eq_of_first_block (hm : Module.ofText code id = .ok m)
    (hfound : (m.comments.find? fun c => c.text == marker) = some comment)
    (hblock : comment.span.IsMarkerBlock marker code) {before after : List Comment} {first : Comment}
    (hsplit : m.comments = before ++ first :: after)
    (hbefore : ∀ earlier ∈ before, ¬ earlier.span.IsMarkerBlock marker code)
    (hfirst : first.span.IsMarkerBlock marker code) : first = comment := by
  have hmem : first ∈ m.comments := by
    rw [hsplit]
    exact List.mem_append_right _ List.mem_cons_self
  have hhere : (first :: after).find? (fun c => c.text == marker) = some first :=
    List.find?_cons_of_pos (beq_iff_eq.mpr (Module.text_of_isMarkerBlock hm hmem hfirst))
  rw [hsplit, List.find?_append, hhere] at hfound
  cases hearlier : before.find? fun c => c.text == marker with
  | none =>
    rw [hearlier] at hfound
    exact Option.some.inj hfound
  | some earlier =>
    rw [hearlier] at hfound
    obtain rfl := Option.some.inj hfound
    exact absurd hblock (hbefore _ (List.mem_of_find?_eq_some hearlier))

theorem keepsToBlocks_of_find? (hm : Module.ofText code id = .ok m)
    (hfound : (m.comments.find? fun c => c.text == marker) = some comment)
    (hblock : comment.span.IsMarkerBlock marker code) : KeepsToBlocks marker code id m where
  supports := iff_of_true (supports_of_find? hfound)
    ⟨comment, List.mem_of_find?_eq_some hfound, hblock⟩
  replaces := by
    intro before first after hsplit hbefore hfirst
    obtain rfl := eq_of_first_block hm hfound hblock hsplit hbefore hfirst
    exact exists_process_marked hm hfound
  keeps := fun hnone => absurd hblock (hnone comment (List.mem_of_find?_eq_some hfound))

theorem keepsToBlocks_of_find?_eq_none (hm : Module.ofText code id = .ok m)
    (hnone : (m.comments.find? fun c => c.text == marker) = none) :
    KeepsToBlocks marker code id m := by
  have hplace : (marked marker).hasPlace m = false :=
    List.any_eq_false.mpr (List.find?_eq_none.mp hnone)
  have hblock : ∀ comment ∈ m.comments, ¬ comment.span.IsMarkerBlock marker code := by
    intro comment hmem hmarks
    refine List.find?_eq_none.mp hnone comment hmem ?_
    exact beq_iff_eq.mpr (Module.text_of_isMarkerBlock hm hmem hmarks)
  refine ⟨?_, ?_, fun _ => process_of_not_hasPlace hm hplace⟩
  · refine iff_of_false (Bool.eq_false_iff.mp hplace) ?_
    rintro ⟨comment, hmem, hmarks⟩
    exact hblock comment hmem hmarks
  · intro before comment after hsplit _ hmarks
    refine absurd hmarks (hblock comment ?_)
    rw [hsplit]
    exact List.mem_append_right _ List.mem_cons_self

theorem KeepsToBlocks.isMarkerBlock (h : KeepsToBlocks marker code id m)
    (hm : Module.ofText code id = .ok m)
    (hfound : (m.comments.find? fun c => c.text == marker) = some comment) :
    comment.span.IsMarkerBlock marker code := by
  obtain ⟨before, block, after, hsplit, hbefore, hblock⟩ :=
    exists_first_block (h.supports.mp (supports_of_find? hfound))
  obtain ⟨front, raw, rest, hcode, hstart, hstop, hprocess⟩ := exists_process_marked hm hfound
  obtain ⟨front', raw', rest', hcode', hstart', hstop', hprocess'⟩ :=
    h.replaces before block after hsplit hbefore hblock
  have hparts := hcode.symm.trans hcode'
  have hout := fun c => Except.ok.inj ((hprocess [] c).symm.trans (hprocess' [] c))
  simp only [List.append_assoc] at hparts hout
  obtain rfl := Injection.eq_of_guards hparts hout
  obtain rfl : rest = rest' := by
    have hrest := hout (Component.fresh [] [])
    simpa only [List.append_cancel_left_eq] using hrest
  have hraw : front ++ raw = front ++ raw' := List.append_cancel_right (hcode.symm.trans hcode')
  have hspan : comment.span = block.span := by
    rw [Span.mk.injEq]
    exact ⟨hstart.symm.trans hstart', by rw [← hstop, hraw, hstop']⟩
  rwa [hspan]

/-- A marker keeps to blocks in a module exactly if the first comment with its text is a block, or no
comment has its text. -/
theorem keepsToBlocks_iff (hm : Module.ofText code id = .ok m) (marker : Text) :
    KeepsToBlocks marker code id m ↔
      ∀ comment, (m.comments.find? fun c => c.text == marker) = some comment →
        comment.span.IsMarkerBlock marker code := by
  refine ⟨fun h comment => h.isMarkerBlock hm, fun hfirst => ?_⟩
  cases hfound : m.comments.find? fun c => c.text == marker with
  | none => exact keepsToBlocks_of_find?_eq_none hm hfound
  | some comment => exact keepsToBlocks_of_find? hm hfound (hfirst comment hfound)

end

theorem keepsToBlocks_iff_block_first :
    let code : Text := "f(); /* call */ g(); // call".toList
    let id : ModuleId := "/a.js".toList
    ∃ m, Module.ofText code id = .ok m ∧ m.comments.length = 2 ∧
      KeepsToBlocks "call".toList code id m := by
  intro code id
  have hread : (Module.ofText code id).toOption.any (fun m =>
      m.comments = [⟨"call".toList, ⟨5, 15⟩⟩, ⟨"call".toList, ⟨21, 28⟩⟩]) = true := by
    decide +kernel
  obtain ⟨m, hm, hcomments⟩ := Module.exists_of_ofText_any hread
  rw [decide_eq_true_iff] at hcomments
  refine ⟨m, hm, congrArg List.length hcomments, (keepsToBlocks_iff hm _).mpr ?_⟩
  rw [hcomments]
  intro comment hfound
  obtain rfl := Option.some.inj hfound
  exact ⟨" call ".toList, by decide +kernel, by decide⟩

/-- A line comment is taken for the marker. -/
theorem not_keepsToBlocks_of_line :
    let code : Text := "// @styles-inject".toList
    let id : ModuleId := "/src/a.js".toList
    ∃ m, Module.ofText code id = .ok m ∧ (marked "@styles-inject".toList).supports m = true ∧
      ¬ KeepsToBlocks "@styles-inject".toList code id m := by
  intro code id
  have hread : (Module.ofText code id).toOption.any (fun m =>
      m.comments = [⟨"@styles-inject".toList, ⟨0, 17⟩⟩]) = true := by decide +kernel
  obtain ⟨m, hm, hcomments⟩ := Module.exists_of_ofText_any hread
  rw [decide_eq_true_iff] at hcomments
  have hsupports : (marked "@styles-inject".toList).supports m = true := by
    rw [supports, hcomments]
    decide
  refine ⟨m, hm, hsupports, fun h => ?_⟩
  obtain ⟨comment, hmem, inside, hslice, _⟩ := h.supports.mp hsupports
  rw [hcomments] at hmem
  obtain rfl := List.mem_singleton.mp hmem
  have hline : Text.slice? 0 17 code = some code := by decide +kernel
  have hblock := Option.some.inj (hline.symm.trans hslice)
  cases (List.cons.inj (List.cons.inj hblock).2).1

end Shape

end ComponentStyles
