import ComponentStyles.Proofs.Build.Root
import ComponentStyles.Proofs.Script.Imports
import ComponentStyles.Proofs.Tree.Attribute

/-!
# The imports of a root module

A component is left without the styles of a file that its root module imports and that is missing from
its files. `files_of_transform`: none is missing. A root module that has been transformed has added to
the files of its component what its import declarations name, each file once and in the order of the
text, behind those that were there.

Proof. The search for import declarations finds those of the script, the path to the source of each
leads to its name (`importSpecifiers_eq`), and recorded imports add what they name
(`Component.recordDependencies_eq_addFiles`).
-/

namespace ComponentStyles

/-- What the import declarations of a script name, in the order of the text. -/
def Script.Outline.specifiers (o : Outline) : List Text :=
  o.statements.filterMap fun s => s.source?.map fun source => source.value.toList

namespace Build

variable {b b' : Build} {draw : Draw} {code : Text} {id : ModuleId} {m : Module}
  {answer : Option Text} {o : Script.Outline}

theorem importSpecifiers_eq (hroot : m.root = o.toNode) :
    importSpecifiers m = o.specifiers.filter (· ≠ []) := by
  have hpath : AttributePath.ofString "source.value" = ⟨["source", "value"]⟩ := by decide
  rw [importSpecifiers, hroot, Script.Outline.search_importDeclaration, hpath,
    Script.Outline.specifiers]
  induction o.statements with
  | nil => rfl
  | cons s statements ih =>
    cases s with
    | importDeclaration span source parts =>
      have hresolve : AttributePath.resolve ⟨["source", "value"]⟩
          (Script.Statement.importDeclaration span source parts).toNode
            = some (.string source.value) := by
        rw [AttributePath.resolve_pair]
        rfl
      rw [List.filter_cons_of_pos rfl, List.map_cons, List.filterMap_cons, hresolve, ih,
        List.filterMap_cons]
      dsimp only [Script.Statement.source?, Option.map_some]
      rw [List.filter_cons]
      by_cases hempty : source.value = ""
      · rw [hempty]
        rfl
      · have hlist : source.value.toList ≠ [] := by
          simpa using hempty
        rw [if_neg (by simpa using hempty), if_pos (by simpa using hempty)]
    | _ => exact ih

def namesFile (specifier : Text) : Bool :=
  specifier.head? = some '.' || specifier.head? = some '/'

theorem isFileSpecifier_eq (specifier : Text) :
    ModuleId.isFileSpecifier specifier = namesFile specifier := by
  cases specifier with
  | nil => rfl
  | cons c rest =>
    rw [Bool.eq_iff_iff, namesFile, Bool.or_eq_true, decide_eq_true_iff, decide_eq_true_iff,
      List.head?_cons, Option.some.injEq, Option.some.injEq]
    unfold ModuleId.isFileSpecifier
    split
    · rename_i heq
      exact iff_of_true rfl (Or.inl (List.cons.inj heq).1)
    · rename_i heq
      exact iff_of_true rfl (Or.inr (List.cons.inj heq).1)
    · rename_i hpoint hslash
      refine iff_of_false Bool.false_ne_true ?_
      rintro (rfl | rfl)
      · exact hpoint rest rfl
      · exact hslash rest rfl

theorem exists_resolve_eq_some {specifier : Text} (h : namesFile specifier = true) :
    ∃ file, ModuleId.resolve id specifier = some file := by
  rw [ModuleId.resolve, isFileSpecifier_eq, if_pos h]
  exact ⟨_, rfl⟩

theorem resolve_eq_none {specifier : Text} (h : namesFile specifier = false) :
    ModuleId.resolve id specifier = none := by
  rw [ModuleId.resolve, isFileSpecifier_eq, h, if_neg Bool.false_ne_true]

theorem map_some_importedFiles (hroot : m.root = o.toNode) :
    (importedFiles id m).map some = (o.specifiers.filter namesFile).map (ModuleId.resolve id) := by
  rw [importedFiles, importSpecifiers_eq hroot]
  induction o.specifiers with
  | nil => rfl
  | cons specifier specifiers ih =>
    cases hnames : namesFile specifier with
    | true =>
      have hne : specifier ≠ [] := by
        rintro rfl
        cases hnames
      obtain ⟨file, hfile⟩ : ∃ file, ModuleId.resolve id specifier = some file :=
        exists_resolve_eq_some hnames
      rw [List.filter_cons_of_pos (by simpa using hne), List.filterMap_cons_some hfile,
        List.map_cons, ih, List.filter_cons_of_pos hnames, List.map_cons, hfile]
    | false =>
      rw [List.filter_cons_of_neg (Bool.eq_false_iff.mp hnames), ← ih, List.filter_cons]
      split
      · rw [List.filterMap_cons_none (resolve_eq_none hnames)]
      · rfl

/-- The transform of a root module that does not fail leaves a component whose files are those that it
had and behind them those that the import declarations of the module name and that were missing, each
once and in the order of the text. Specifiers that begin with neither a point nor a slash name none. No
file is there twice unless one was before. -/
theorem files_of_transform [Script.Reader] (hindex : b.session.Indexed)
    (hroot : ModuleId.isComponent b.settings id = true)
    (hok : b.transform draw code id = (.ok answer, b')) :
    ∃ (script : Script.ReadScript) (c : Component) (named : List ModuleId),
      Script.Reader.read (Module.dialect id) code = .ok script ∧ b'.session.get? id = some c ∧
      named.map some = (script.outline.specifiers.filter namesFile).map (ModuleId.resolve id) ∧
      let earlier := (b.session.get? id).elim [] (·.files)
      c.files = earlier ++ (named.removeAll earlier).eraseDups ∧
        (earlier.Nodup → c.files.Nodup) := by
  rcases transform_root_cases hroot draw code with ⟨fault, hfault⟩ | ⟨m, s, hm, hs, hanswer⟩
  · rw [hfault] at hok
    cases (Prod.mk.inj hok).1
  obtain ⟨script, hread, htree, _⟩ := Module.exists_script_of_ofText hm
  obtain ⟨_, rfl⟩ := Prod.mk.inj (hanswer.symm.trans hok)
  obtain ⟨c, hc, hfiles⟩ := hindex.exists_get?_of_opens hs
  have htold : (told id m s b).session.get? id = some (learn id m (b.shapes.detect m) c) := by
    rw [told, Session.get?_update, hc, Option.map_some]
  refine ⟨script, _, importedFiles id m, hread, htold, map_some_importedFiles htree, ?_, fun h => ?_⟩
  · rw [learn_eq_with, ← hfiles]
    rfl
  · rw [← hfiles] at h
    exact (amends_learn id m _).files c h

/-- A root module that is transformed again after its text has grown. Of its five imports one is bare,
one is empty, and two name a file that is already there. -/
theorem files_of_transform_grown :
    let code :=
      "import './a.js'; import 'vue'; import ''; import './x/../b.js'; import './a.js';".toList
    let b := initial.run [.transform (fun _ _ => 1) "import './b.js';".toList "/A.vue".toList]
    let b' := (b.transform (fun _ _ => 2) code "/A.vue".toList).2
    b.session.Indexed ∧ ModuleId.isComponent b.settings "/A.vue".toList = true ∧
      (b.transform (fun _ _ => 2) code "/A.vue".toList).1 = .ok none ∧
      (b.session.get? "/A.vue".toList).map (·.files) = some ["/b.js".toList] ∧
      (b'.session.get? "/A.vue".toList).map (·.files)
        = some ["/b.js".toList, "/a.js".toList] ∧
      ∃ (script : Script.ReadScript) (c : Component) (named : List ModuleId),
        Script.Reader.read (Module.dialect "/A.vue".toList) code = .ok script ∧
        b'.session.get? "/A.vue".toList = some c ∧
        named.map some
          = (script.outline.specifiers.filter namesFile).map (ModuleId.resolve "/A.vue".toList) ∧
        c.files = ["/b.js".toList] ++ (named.removeAll ["/b.js".toList]).eraseDups ∧
        c.files.Nodup := by
  intro code b b'
  have hindex : b.session.Indexed := ((Sound.of_withShapes withShapes_initial).run _).registry.indexed
  have hroot : ModuleId.isComponent b.settings "/A.vue".toList = true := by decide +kernel
  have hanswer : (b.transform (fun _ _ => 2) code "/A.vue".toList).1 = .ok none := by
    decide +kernel
  have hearlier : (b.session.get? "/A.vue".toList).elim [] (·.files) = ["/b.js".toList] := by
    decide +kernel
  obtain ⟨script, c, named, hread, hc, hnamed, hfiles, hnodup⟩ :=
    files_of_transform hindex hroot (Prod.fst_eq_iff.mp hanswer)
  rw [hearlier] at hfiles hnodup
  exact ⟨hindex, hroot, hanswer, by decide +kernel, by decide +kernel, script, c, named, hread, hc,
    hnamed, hfiles, hnodup (List.nodup_singleton _)⟩

end Build

end ComponentStyles
