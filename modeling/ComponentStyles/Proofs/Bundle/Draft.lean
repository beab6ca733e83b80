import ComponentStyles.Proofs.Bundle.Emitted
import ComponentStyles.Proofs.Bundle.Routine
import ComponentStyles.Proofs.Session.Run
import ComponentStyles.Proofs.Text.Split

/-!
# Injected calls are found again

A draft is a file of a bundle in pieces, each on lines of its own. `finish_of_emitted`: in the
bundle of drafts whose pieces are emitted with one name of the routine, the calls that the injector
has written are the ones that finishing finds. The name is recovered when there is such a call, and
each draft with one gets the definition of the routine and the styles of its components; everything
else stays as it is.

Proof. A line break is in no placeholder, so an occurrence in a draft is one in a piece
(`exists_of_occurrence_join`), and the draft is resolved piece by piece (`resolve_join`). What is
called with in a piece is called with in the draft, because the name of the routine stands in the
piece with a blank before it. So every occurrence shows the same name, and the search through first
occurrences and the one through all of them agree.
-/

namespace ComponentStyles.Bundle

open Component (Issued placeholderMark placeholderLetters)

/-- A file of a bundle in pieces. -/
structure Draft where
  fileName : String
  pieces : Option (List Piece)

namespace Draft

def calls (d : Draft) : Bool := d.pieces.any fun ps => ps.any Piece.calls

def chunk (d : Draft) : Chunk :=
  { fileName := d.fileName, code := d.pieces.map fun ps => Text.join ['\n'] (ps.map Piece.text) }

/-- The file as it is meant to be in the end. -/
def finished (routine : Text) (d : Draft) : Chunk :=
  if d.calls then
    { fileName := d.fileName
      code := d.pieces.map fun ps =>
        routineSource routine ++ '\n' :: Text.join ['\n'] (ps.map Piece.styled) }
  else d.chunk

end Draft

variable {length : Nat} {cs : List Component} {routine : Text}

/-! ### Pieces on lines of their own -/

theorem exists_of_occurrence_join {pattern : Text} (hne : pattern ≠ []) (hbreak : '\n' ∉ pattern)
    {ts : List Text} {front rest : Text} (h : Text.join ['\n'] ts = front ++ (pattern ++ rest)) :
    ∃ t ∈ ts, ∃ before front' rest',
      front = before ++ front' ∧ t = front' ++ (pattern ++ rest') := by
  induction ts generalizing front with
  | nil =>
    have hnil := (List.append_eq_nil_iff.mp h.symm).2
    exact absurd (List.append_eq_nil_iff.mp hnil).1 hne
  | cons t ts ih =>
    cases ts with
    | nil => exact ⟨t, List.mem_cons_self, [], front, rest, rfl, h⟩
    | cons t' ts =>
      rw [Text.join_cons_cons] at h
      rcases Text.append_cons_eq_append hbreak h with ⟨r, ht, _⟩ | ⟨f, rfl, hbehind⟩
      · exact ⟨t, List.mem_cons_self, [], front, r, rfl, ht⟩
      · obtain ⟨t'', ht'', before, front', rest', rfl, heq⟩ := ih hbehind
        refine ⟨t'', List.mem_cons_of_mem t ht'', t ++ '\n' :: before, front', rest', ?_, heq⟩
        rw [List.append_assoc, List.cons_append]

theorem infix_join_of_mem {t : Text} {ts : List Text} (h : t ∈ ts) :
    t <:+: Text.join ['\n'] ts := by
  induction ts with
  | nil => exact absurd h List.not_mem_nil
  | cons t₀ ts ih =>
    cases ts with
    | nil => exact List.mem_singleton.mp h ▸ List.infix_refl _
    | cons t' ts =>
      rw [Text.join_cons_cons]
      rcases List.mem_cons.mp h with rfl | h
      · exact (List.prefix_append ..).isInfix
      · exact ((ih h).trans (List.suffix_cons ..).isInfix).trans (List.suffix_append ..).isInfix

theorem resolve_join (hcs : Issued length cs)
    (hstyles : ∀ c ∈ cs, ¬ placeholderMark <:+: c.styles) (hroutine : IsRoutineName routine)
    {ps : List Piece} (hps : ∀ p ∈ ps, Emitted routine cs p) :
    resolve cs (Text.join ['\n'] (ps.map Piece.text))
      = (ps.any Piece.calls, Text.join ['\n'] (ps.map Piece.styled)) := by
  have hbreak : '\n' ∉ placeholderLetters := by decide +kernel
  induction ps with
  | nil => exact resolve_of_markless hcs (by decide)
  | cons p ps ih =>
    have hp := (hps p List.mem_cons_self).resolve_text hcs hstyles hroutine
    have ih := ih fun p' hp' => hps p' (List.mem_cons_of_mem p hp')
    cases ps with
    | nil => simpa [Text.join] using hp
    | cons p' ps =>
      simp only [List.map_cons] at ih ⊢
      rw [Text.join_cons_cons, Text.join_cons_cons, resolve_append_cons hcs hbreak, hp, ih]
      rfl

/-! ### The calls in a draft -/

theorem callee?_of_occurrence (hcs : Issued length cs) (hroutine : IsRoutineName routine)
    {ps : List Piece} (hps : ∀ p ∈ ps, Emitted routine cs p) {c : Component} (hc : c ∈ cs)
    {front rest : Text}
    (h : Text.join ['\n'] (ps.map Piece.text) = front ++ (c.placeholder ++ rest)) :
    callee? (Text.join ['\n'] (ps.map Piece.text)) front.byteLength = some routine ∧
      ∃ p ∈ ps, p.owner = some c := by
  have hbreak : '\n' ∉ c.placeholder := hcs.not_mem_placeholder hc (by decide +kernel)
  obtain ⟨t, ht, before, front', rest', rfl, heq⟩ :=
    exists_of_occurrence_join (hcs.placeholder_ne_nil hc) hbreak h
  obtain ⟨p, hp, rfl⟩ := List.mem_map.mp ht
  obtain ⟨howner, u, rfl⟩ := (hps p hp).of_occurrence hcs hroutine hc heq
  refine ⟨?_, p, hp, howner⟩
  have hcall := callee?_callOpening hroutine (before ++ u) (c.placeholder ++ rest)
  rw [h]
  simpa only [List.append_assoc, List.singleton_append] using hcall

theorem exists_placeholder_infix_join (hcs : Issued length cs) {ps : List Piece}
    (hps : ∀ p ∈ ps, Emitted routine cs p) (h : ps.any Piece.calls = true) :
    ∃ c ∈ cs, c.placeholder <:+: Text.join ['\n'] (ps.map Piece.text) := by
  obtain ⟨⟨_ | c, t⟩, hp, hcalls⟩ := List.any_eq_true.mp h
  · cases hcalls
  · obtain ⟨hc, u, v, rfl, _, _⟩ := (hps _ hp).eq_call hcs
    refine ⟨c, hc, List.IsInfix.trans ?_ (infix_join_of_mem (List.mem_map.mpr ⟨_, hp, rfl⟩))⟩
    exact ⟨u ++ callOpening routine ++ ['"'], '"' :: v, by simp⟩

theorem callsRoutine_join (hcs : Issued length cs) (hroutine : IsRoutineName routine)
    {ps : List Piece} (hps : ∀ p ∈ ps, Emitted routine cs p) :
    callsRoutine cs (Text.join ['\n'] (ps.map Piece.text)) = ps.any Piece.calls := by
  rw [Bool.eq_iff_iff, callsRoutine_iff hcs]
  constructor
  · rintro ⟨c, hc, front, rest, heq, _⟩
    obtain ⟨_, p, hp, howner⟩ := callee?_of_occurrence hcs hroutine hps hc heq
    exact List.any_eq_true.mpr ⟨p, hp, by rw [Piece.calls, howner]; rfl⟩
  · intro h
    obtain ⟨c, hc, front, rest, heq⟩ := exists_placeholder_infix_join hcs hps h
    rw [List.append_assoc] at heq
    obtain ⟨hcall, _⟩ := callee?_of_occurrence hcs hroutine hps hc heq.symm
    exact ⟨c, hc, front, rest, heq.symm, by rw [hcall]; rfl⟩

theorem findSome?_eq_ite {α β : Type} {f : α → Option β} {test : α → Bool} {b : β} {l : List α}
    (h : ∀ x ∈ l, f x = if test x then some b else none) :
    l.findSome? f = if l.any test then some b else none := by
  induction l with
  | nil => rfl
  | cons x l ih =>
    rw [List.findSome?_cons, h x List.mem_cons_self, List.any_cons,
      ih fun y hy => h y (List.mem_cons_of_mem x hy)]
    cases test x <;> rfl

theorem calleeIn?_join (hcs : Issued length cs) (hroutine : IsRoutineName routine)
    {ps : List Piece} (hps : ∀ p ∈ ps, Emitted routine cs p) :
    calleeIn? cs (Text.join ['\n'] (ps.map Piece.text))
      = if ps.any Piece.calls then some routine else none := by
  let code := Text.join ['\n'] (ps.map Piece.text)
  have hany : cs.any (fun c => Text.hasPart c.placeholder code) = ps.any Piece.calls := by
    rw [Bool.eq_iff_iff, List.any_eq_true]
    constructor
    · rintro ⟨c, hc, hpart⟩
      obtain ⟨front, rest, heq⟩ := Text.hasPart_iff.mp hpart
      rw [List.append_assoc] at heq
      obtain ⟨_, p, hp, howner⟩ := callee?_of_occurrence hcs hroutine hps hc heq.symm
      exact List.any_eq_true.mpr ⟨p, hp, by rw [Piece.calls, howner]; rfl⟩
    · intro h
      obtain ⟨c, hc, hpart⟩ := exists_placeholder_infix_join hcs hps h
      exact ⟨c, hc, Text.hasPart_iff.mpr hpart⟩
  rw [calleeIn?, ← hany]
  refine findSome?_eq_ite fun c hc => ?_
  rw [Text.hasPart]
  cases hoffset : Text.offsetOf? c.placeholder code with
  | none => rfl
  | some offset =>
    obtain ⟨front, ⟨⟨rest, heq⟩, _⟩, rfl⟩ := Text.offsetOf?_eq_some_iff.mp hoffset
    exact (callee?_of_occurrence hcs hroutine hps hc heq).1

theorem routineName?_drafts (hcs : Issued length cs) (hroutine : IsRoutineName routine)
    {drafts : List Draft}
    (hdrafts : ∀ d ∈ drafts, ∀ ps, d.pieces = some ps → ∀ p ∈ ps, Emitted routine cs p) :
    routineName? cs (drafts.map Draft.chunk)
      = if drafts.any Draft.calls then some routine else none := by
  rw [routineName?, List.findSome?_map]
  refine findSome?_eq_ite fun d hd => ?_
  cases hpieces : d.pieces with
  | none => simp [Draft.chunk, Draft.calls, hpieces]
  | some ps =>
    simp only [Function.comp_apply, Draft.chunk, Draft.calls, hpieces, Option.map_some,
      Option.bind_some, Option.any_some]
    exact calleeIn?_join hcs hroutine (hdrafts d hd ps hpieces)

theorem Piece.styled_of_not_calls {p : Piece} (h : p.calls = false) : p.styled = p.text := by
  obtain ⟨_ | c, t⟩ := p
  · rfl
  · cases h

/-- A draft is finished as it is meant to be. -/
theorem finish_draft (hcs : Issued length cs)
    (hstyles : ∀ c ∈ cs, ¬ placeholderMark <:+: c.styles) (hroutine : IsRoutineName routine)
    {d : Draft} (hd : ∀ ps, d.pieces = some ps → ∀ p ∈ ps, Emitted routine cs p)
    {name : Option Text} (hname : d.calls = true → name = some routine) :
    { d.chunk with code := d.chunk.code.map (finishText cs name) } = d.finished routine := by
  obtain ⟨fileName, _ | ps⟩ := d
  · rfl
  have hps := hd ps rfl
  have hresolve := resolve_join hcs hstyles hroutine hps
  have hcall := callsRoutine_join hcs hroutine hps
  by_cases h : ps.any Piece.calls = true
  · obtain rfl := hname h
    rw [Draft.finished, if_pos (show Draft.calls ⟨fileName, some ps⟩ = true from h)]
    simp only [Draft.chunk, Option.map_some, finishText, hcall, h, if_true, hresolve]
  · have hstyled : ps.map Piece.styled = ps.map Piece.text := by
      refine List.map_congr_left fun p hp => Piece.styled_of_not_calls ?_
      exact Bool.eq_false_iff.mpr fun hp' => h (List.any_eq_true.mpr ⟨p, hp, hp'⟩)
    rw [Draft.finished, if_neg (show ¬ Draft.calls ⟨fileName, some ps⟩ = true from h)]
    rw [Bool.not_eq_true] at h
    cases name with
    | none => simp only [Draft.chunk, Option.map_some, finishText, hresolve, hstyled]
    | some name =>
      simp only [Draft.chunk, Option.map_some, finishText, hcall, h, Bool.false_eq_true, if_false,
        hresolve, hstyled]

/-! ### Bundles of drafts -/

/-- What the injector writes, finishing finds: each injected piece calls the routine once, with its
own placeholder; the name is recovered iff there is an injected piece; the drafts with one get the
definition of the routine and the styles of their components, and nothing else changes. -/
theorem finish_of_emitted {s : Session} (hs : s.Reachable) (hroutine : IsRoutineName routine)
    (hstyles : ∀ c ∈ s.components, ¬ placeholderMark <:+: c.styles) (drafts : List Draft)
    (hdrafts : ∀ d ∈ drafts, ∀ ps, d.pieces = some ps → ∀ p ∈ ps, Emitted routine s.components p) :
    (∀ p c, Emitted routine s.components p → p.owner = some c →
        CallsOnce routine s.components c p) ∧
      (finish s.components (drafts.map Draft.chunk)).1
        = (if drafts.any Draft.calls then some routine else none) ∧
      (finish s.components (drafts.map Draft.chunk)).2 = drafts.map (Draft.finished routine) := by
  have hcs := hs.issued
  have hname := routineName?_drafts hcs hroutine hdrafts
  refine ⟨fun p c hp howner => hp.callsOnce hcs hroutine howner, ?_, ?_⟩
  · rw [finish, hname]
  · rw [finish, hname]
    dsimp only
    rw [List.map_map]
    refine List.map_congr_left fun d hd => ?_
    refine finish_draft hcs hstyles hroutine (hdrafts d hd) fun hcalls => ?_
    rw [if_pos (List.any_eq_true.mpr ⟨d, hd, hcalls⟩)]

theorem finish_of_emitted_render :
    let css : Text := ".a{}".toList
    let s := Session.run
      [.getOrCreate (fun _ _ => 1) "/A.vue".toList,
        .recordStyle "/A.vue".toList "/A.vue?type=style".toList css]
      { settings := {}, components := [], index := [], issued := ["aaaaaaaa".toList],
        routine := "_vpis_aaaaaaaa".toList }
    let c := { Component.fresh "__vpsi_bbbbbbbb".toList "/A.vue".toList with
      css := [("/A.vue?type=style".toList, css)] }
    let injected : Piece := ⟨some c, c.guardDeclaration ++ "export function f() \x7b".toList
      ++ c.guardedCall "n".toList ++ "\x7d".toList⟩
    let drafts : List Draft :=
      [⟨"a.css", none⟩, ⟨"b.js", some [⟨none, "g()".toList⟩, injected]⟩,
        ⟨"c.js", some [⟨none, "h()".toList⟩]⟩]
    finish s.components (drafts.map Draft.chunk)
      = (some "n".toList, drafts.map (Draft.finished "n".toList)) := by
  intro css s c injected drafts
  have hs : s.Reachable := ⟨fun _ _ => 0, {}, _, _, by rfl, rfl⟩
  have hcomponents : s.components = [c] := by decide +kernel
  have hbody : Shape.hasBody
      (.functionDeclaration ⟨7, 22⟩ none (some ⟨20, 22⟩) false false) = true := rfl
  have hinjected : Emitted "n".toList s.components injected :=
    .injected (by rw [hcomponents]; exact List.mem_singleton_self c)
      (by decide +kernel : ¬ placeholderMark <:+: "export function f() \x7b\x7d".toList)
      hbody (by decide +kernel)
  have hdrafts : ∀ d ∈ drafts, ∀ ps, d.pieces = some ps →
      ∀ p ∈ ps, Emitted "n".toList s.components p := by
    refine List.forall_mem_cons.mpr ⟨?_, List.forall_mem_cons.mpr ⟨?_, ?_⟩⟩
    · rintro ps ⟨⟩
    · rintro ps ⟨⟩
      exact List.forall_mem_cons.mpr ⟨.plain (by decide), List.forall_mem_singleton.mpr hinjected⟩
    · refine List.forall_mem_singleton.mpr ?_
      rintro ps ⟨⟩
      exact List.forall_mem_singleton.mpr (.plain (by decide))
  obtain ⟨_, hname, hchunks⟩ := finish_of_emitted hs ⟨by decide, List.all_eq_true.mp (by decide)⟩
    (by rw [hcomponents]; decide +kernel) drafts hdrafts
  exact Prod.ext (hname.trans (if_pos rfl)) hchunks

end ComponentStyles.Bundle
