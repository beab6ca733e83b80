import ComponentStyles.Proofs.Injection.Splice
import ComponentStyles.Proofs.Script.Tree
import ComponentStyles.Proofs.Text.Occurrence
import ComponentStyles.Proofs.Tree.OfText
import ComponentStyles.Shape

/-!
# Where the guard of a function is put

The guard of a function belongs at the start of the statement that declares the function, which is
the function itself or the export of it. The injector does not look for that statement, but at the
text before the function. `guard_at_statement_iff`: for every function with a body that is found in
a module, the guard is put at the start of its statement exactly when the text from there to the
function is taken for an `export` (`ExportRecognised`). A comment behind `export` is enough to miss
it, and a comment that ends in the word is taken for it (`exists_guard_in_comment`).

Proof. The functions of a module fit its text, so the injector succeeds. It cuts the text before the
function in the one way that `splitExport` does, which leaves one place for the guards of all
components (`GuardGoesTo.unique`).
-/

namespace ComponentStyles.Injection

/-- The guards of all components go to the byte offset. -/
def GuardGoesTo (n : Node) (code : Text) (offset : Nat) : Prop :=
  ∃ front middle rest, code = front ++ middle ++ rest ∧ Text.byteLength front = offset ∧
    ∀ (routine : Text) (c : Component), intoFunction routine c n code
      = .ok (front ++ c.guardDeclaration ++ middle ++ c.guardedCall routine ++ rest)

/-- The text between two byte offsets is taken for the `export` of what follows; or there is no text
between them, and nothing before them is taken for one. -/
def ExportRecognised (code : Text) (start stop : Nat) : Prop :=
  ∃ before gap tail, code = before ++ gap ++ tail ∧ Text.byteLength before = start ∧
    Text.byteLength (before ++ gap) = stop ∧
    (ExportPhrase gap ∧ StandsAlone before ∨ gap = [] ∧ ¬ EndsInExport before)

variable {code : Text}

/-! ### One place for the guard -/

theorem eq_of_byteLength_eq {front front' rest rest' : Text} (h : front ++ rest = front' ++ rest')
    (hlength : Text.byteLength front = Text.byteLength front') : front = front' := by
  have hsplit : Text.splitAtByte? (Text.byteLength front) (front ++ rest) = some (front, rest) :=
    Text.splitAtByte?_eq_some_iff.mpr ⟨rfl, rfl⟩
  rw [h, hlength, Text.splitAtByte?_eq_some_iff.mpr ⟨rfl, rfl⟩] at hsplit
  exact (Prod.mk.inj (Option.some.inj hsplit)).1.symm

theorem exists_guard_not_shifted (w : Text) (hw : w ≠ []) :
    ∃ c : Component, ∀ rest rest',
      c.guardDeclaration ++ rest ≠ w ++ (c.guardDeclaration ++ rest') := by
  let id := List.replicate w.length 'a'
  refine ⟨Component.fresh id [], fun rest rest' h => ?_⟩
  have hguard : (Component.fresh id []).guardDeclaration
      = ';' :: ("let _$".toList ++ id ++ " = false;\n".toList) := by
    have hopen : ";let ".toList = ';' :: "let ".toList := by decide
    have hname : "let _$".toList = "let ".toList ++ ['_', '$'] := by decide
    rw [Component.guardDeclaration_def, Component.guardName, Component.fresh, hopen, hname]
    simp only [List.append_assoc, List.cons_append, List.nil_append]
  have hsemicolon : ';' ∉ "let _$".toList ++ id := by
    rw [List.mem_append, not_or]
    exact ⟨by decide, fun hmem => absurd (List.eq_of_mem_replicate hmem) (by decide)⟩
  obtain ⟨d, w, rfl⟩ := List.exists_cons_of_ne_nil hw
  rw [hguard, List.cons_append, List.cons_append, List.cons_append, List.append_assoc] at h
  obtain ⟨_, h⟩ := List.cons.inj h
  rw [← List.nil_append (_ ++ id ++ _)] at h
  rcases Text.append_cons_eq_append hsemicolon h.symm with ⟨r, hw, _⟩ | ⟨f, hnil, _⟩
  · have hlength := congrArg List.length hw
    simp [id] at hlength
    omega
  · simp at hnil

theorem eq_of_prefix_of_guards {front front' : Text} {out out' : Component → Text}
    (hfront : front <+: front')
    (h : ∀ c, front ++ (c.guardDeclaration ++ out c) = front' ++ (c.guardDeclaration ++ out' c)) :
    front = front' := by
  obtain ⟨w, rfl⟩ := hfront
  by_contra hne
  have hw : w ≠ [] := by
    rintro rfl
    exact hne (List.append_nil front).symm
  obtain ⟨c, hc⟩ := exists_guard_not_shifted w hw
  have heq := h c
  rw [List.append_assoc front w] at heq
  exact hc _ _ (List.append_cancel_left heq)

/-- If the guards of all components are put into a text at two places with the same outcome, the places
are one. -/
theorem eq_of_guards {front front' rest rest' : Text} {out out' : Component → Text}
    (hcode : front ++ rest = front' ++ rest')
    (h : ∀ c, front ++ (c.guardDeclaration ++ out c) = front' ++ (c.guardDeclaration ++ out' c)) :
    front = front' := by
  rcases List.prefix_or_prefix_of_prefix ⟨rest, hcode⟩ (List.prefix_append front' rest')
    with hfront | hfront
  · exact eq_of_prefix_of_guards hfront h
  · exact (eq_of_prefix_of_guards hfront fun c => (h c).symm).symm

theorem GuardGoesTo.unique {n : Node} {a b : Nat} (ha : GuardGoesTo n code a)
    (hb : GuardGoesTo n code b) : a = b := by
  obtain ⟨front, middle, rest, hcode, rfl, hout⟩ := ha
  obtain ⟨front', middle', rest', hcode', rfl, hout'⟩ := hb
  have heq := fun c => Except.ok.inj ((hout [] c).symm.trans (hout' [] c))
  simp only [List.append_assoc] at heq
  rw [List.append_assoc] at hcode hcode'
  rw [eq_of_guards (hcode.symm.trans hcode') heq]

theorem exportRecognised_of_splitExport {front exports : Text}
    (h : splitExport (front ++ exports) = (front, exports)) (rest : Text) :
    ExportRecognised (front ++ exports ++ rest) (Text.byteLength front)
      (Text.byteLength (front ++ exports)) := by
  refine ⟨front, exports, rest, rfl, rfl, rfl, ?_⟩
  refine (splitExport_eq_iff.mp h).2.imp_right fun ⟨hnil, hnot⟩ => ⟨hnil, ?_⟩
  rwa [hnil, List.append_nil] at hnot

theorem exists_guardGoesTo {n : Node} (hbody : Shape.hasBody n = true)
    (hfits : Module.fits code n = true) :
    ∃ offset, GuardGoesTo n code offset ∧ ExportRecognised code offset n.span.start := by
  obtain ⟨span, name, body, isAsync, isGenerator, rfl⟩ := exists_of_hasBody hbody
  obtain ⟨out, hout⟩ : ∃ out, intoFunction [] (Component.fresh [] [])
      (.functionDeclaration span name (some body) isAsync isGenerator) code = .ok out :=
    exists_intoFunction_eq_ok hfits
  obtain ⟨front, exports, head, rest, rfl, hsplit, hstart, hstop, _⟩ :=
    intoFunction_eq_ok_iff.mp hout
  refine ⟨Text.byteLength front, ?_, ?_⟩
  · refine ⟨front, exports ++ head, rest, by simp only [List.append_assoc], rfl, ?_⟩
    intro routine c
    refine intoFunction_eq_ok_iff.mpr ⟨front, exports, head, rest, rfl, hsplit, hstart, hstop, ?_⟩
    simp only [List.append_assoc]
  · have hexport := exportRecognised_of_splitExport hsplit (head ++ rest)
    rwa [hstart, ← List.append_assoc] at hexport

theorem ExportRecognised.unique {a b stop : Nat} (ha : ExportRecognised code a stop)
    (hb : ExportRecognised code b stop) : a = b := by
  obtain ⟨before, gap, tail, rfl, rfl, hstop, hgap⟩ := ha
  obtain ⟨before', gap', tail', hcode, rfl, hstop', hgap'⟩ := hb
  have heq : before ++ gap = before' ++ gap' :=
    eq_of_byteLength_eq hcode (hstop.trans hstop'.symm)
  have hsplit : ∀ {front exports : Text}, ExportPhrase exports ∧ StandsAlone front ∨
      exports = [] ∧ ¬ EndsInExport front → splitExport (front ++ exports) = (front, exports) :=
    fun h => splitExport_eq_iff.mpr
      ⟨rfl, h.imp_right fun h => ⟨h.1, by rw [h.1, List.append_nil]; exact h.2⟩⟩
  have hpair := (hsplit hgap).symm.trans (heq ▸ hsplit hgap')
  rw [(Prod.mk.inj hpair).1]

theorem guardGoesTo_iff {n : Node} (hbody : Shape.hasBody n = true)
    (hfits : Module.fits code n = true) (offset : Nat) :
    GuardGoesTo n code offset ↔ ExportRecognised code offset n.span.start := by
  obtain ⟨start, hguard, hexport⟩ := exists_guardGoesTo hbody hfits
  constructor
  · intro hoffset
    rwa [← hguard.unique hoffset]
  · intro hoffset
    rwa [← hexport.unique hoffset]

/-! ### The guard of a function in a module -/

theorem exists_outline_of_ofText [Script.Reader] {id : ModuleId} {m : Module}
    (hm : Module.ofText code id = .ok m) :
    ∃ o : Script.Outline, m.root = o.toNode ∧ Module.fits code m.root = true := by
  obtain ⟨script, _, hroot, _, hfits⟩ := Module.exists_script_of_ofText hm
  exact ⟨script.outline, hroot, hfits⟩

theorem isFunction_of_hasBody {n : Node} (h : Shape.hasBody n = true) : n.isFunction = true := by
  obtain ⟨_, _, _, _, _, rfl⟩ := exists_of_hasBody h
  rfl

/-- Every function with a body that is found in a module is declared by a statement at the top of
its tree, and gets the call; its guard is put at the start of the statement exactly when the text
from there to the function is taken for its `export`. -/
theorem guard_at_statement_iff [Script.Reader] {id : ModuleId} {m : Module}
    (hm : Module.ofText code id = .ok m) {tag : String} {constraints : List Constraint} {n : Node}
    (hn : n ∈ m.root.search tag constraints) (hbody : Shape.hasBody n = true) :
    (∃ offset, GuardGoesTo n code offset) ∧ (∃ s ∈ m.root.children, s.Declares n) ∧
      ∀ s ∈ m.root.children, s.Declares n →
        (GuardGoesTo n code s.span.start ↔ ExportRecognised code s.span.start n.span.start) := by
  obtain ⟨outline, hroot, hfits⟩ := exists_outline_of_ofText hm
  have hpreorder := (Node.mem_search_iff.mp hn).1
  have hfit := Node.fits_of_mem_preorder hfits hpreorder
  obtain ⟨offset, hguard, _⟩ := exists_guardGoesTo hbody hfit
  refine ⟨⟨offset, hguard⟩, ?_, fun s _ _ => guardGoesTo_iff hbody hfit s.span.start⟩
  rw [hroot] at hpreorder ⊢
  exact Script.Outline.exists_declares (isFunction_of_hasBody hbody) hpreorder

theorem guard_at_statement_iff_export :
    let code : Text := "export function f() \x7b\x7d".toList
    ∃ m n, Module.ofText code "/a.js".toList = .ok m ∧ n ∈ m.root.search "FunctionDeclaration" [] ∧
      n.span.start = 7 ∧ GuardGoesTo n code 0 := by
  intro code
  have hread : (Module.ofText code "/a.js".toList).toOption.any (fun m =>
      m.root.children.all (fun s => s.span.start = 0) &&
        (m.root.search "FunctionDeclaration" []).any fun n =>
          Shape.hasBody n && n.span.start = 7) = true := by decide +kernel
  obtain ⟨m, hm, htest⟩ := Module.exists_of_ofText_any hread
  rw [Bool.and_eq_true, List.all_eq_true, List.any_eq_true] at htest
  obtain ⟨hstart, n, hn, hfunction⟩ := htest
  rw [Bool.and_eq_true, decide_eq_true_eq] at hfunction
  obtain ⟨hbody, hseven⟩ := hfunction
  obtain ⟨_, ⟨s, hs, hdeclares⟩, hguard⟩ := guard_at_statement_iff hm hn hbody
  have hzero : s.span.start = 0 := of_decide_eq_true (hstart s hs)
  refine ⟨m, n, hm, hn, hseven, ?_⟩
  rw [← hzero, hguard s hs hdeclares, hzero, hseven]
  exact ⟨[], exportWord ++ [' '], "function f() \x7b\x7d".toList, by decide, rfl, by decide,
    Or.inl ⟨.named ⟨by decide, List.all_eq_true.mp (by decide)⟩, fun _ h => absurd h (by simp)⟩⟩

/-- The guard of a function behind a comment that ends in `export` is put into the comment. -/
theorem exists_guard_in_comment :
    let code : Text := "// export\nfunction f() \x7b\x7d".toList
    ∃ m n, Module.ofText code "/a.js".toList = .ok m ∧ n ∈ m.root.search "FunctionDeclaration" [] ∧
      Shape.hasBody n = true ∧ n ∈ m.root.children ∧ n.span.start = 10 ∧ GuardGoesTo n code 3 ∧
      ¬ GuardGoesTo n code n.span.start := by
  intro code
  have hread : (Module.ofText code "/a.js".toList).toOption.any (fun m =>
      m.root.children.any fun n =>
        n.tag == "FunctionDeclaration" && Shape.hasBody n && n.span.start = 10) = true := by
    decide +kernel
  obtain ⟨m, hm, htest⟩ := Module.exists_of_ofText_any hread
  obtain ⟨n, hn, hfunction⟩ := List.any_eq_true.mp htest
  rw [Bool.and_eq_true, Bool.and_eq_true, decide_eq_true_eq] at hfunction
  obtain ⟨⟨htag, hbody⟩, hstart⟩ := hfunction
  have hmem : n ∈ m.root.preorder :=
    Node.mem_preorder_iff.mpr (Or.inr ⟨n, hn, Node.mem_preorder_iff.mpr (Or.inl rfl)⟩)
  obtain ⟨_, _, hfits⟩ := exists_outline_of_ofText hm
  have hguard : GuardGoesTo n code 3 := by
    rw [guardGoesTo_iff hbody (Node.fits_of_mem_preorder hfits hmem), hstart]
    refine ⟨"// ".toList, exportWord ++ ['\n'], "function f() \x7b\x7d".toList, by decide, rfl,
      by decide, Or.inl ⟨.named ⟨by decide, List.all_eq_true.mp (by decide)⟩, fun ch h => ?_⟩⟩
    obtain rfl : ' ' = ch := Option.some.inj h
    decide
  refine ⟨m, n, hm, Node.mem_search_iff.mpr ⟨hmem, ?_⟩, hbody, hn, hstart, hguard, fun h => ?_⟩
  · rw [Node.isMatch, htag]
    rfl
  · rw [hstart] at h
    exact absurd (hguard.unique h) (by decide)

end ComponentStyles.Injection
