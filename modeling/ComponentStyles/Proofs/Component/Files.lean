import ComponentStyles.Component

/-!
# The files of a component

The imports of a root module are recorded one after the other. What this leaves behind is said at
once (`recordDependencies_eq_addFiles`): the files that were there before, and behind them those that the
imports name and that were not there, each once and in the order of the imports (`addFiles`). So
recording the same imports again changes nothing (`addFiles_addFiles`).
-/

namespace ComponentStyles.Component

def addFiles (files new : List ModuleId) : List ModuleId :=
  files ++ (new.removeAll files).eraseDups

variable {files new : List ModuleId} {file : ModuleId}

@[simp] theorem addFiles_nil (files : List ModuleId) : addFiles files [] = files := by
  rw [addFiles, List.nil_removeAll, List.eraseDups_nil, List.append_nil]

theorem mem_addFiles : file ∈ addFiles files new ↔ file ∈ files ∨ file ∈ new := by
  rw [addFiles, List.mem_append, List.mem_eraseDups, List.removeAll, List.mem_filter]
  by_cases hfile : file ∈ files <;> simp [hfile]

theorem addFiles_cons (files : List ModuleId) (file : ModuleId) (new : List ModuleId) :
    addFiles files (file :: new)
      = addFiles (if file ∈ files then files else files ++ [file]) new := by
  by_cases hfile : file ∈ files
  · rw [if_pos hfile, addFiles, addFiles, List.cons_removeAll, if_neg (by simpa using hfile)]
  · have hrest : new.removeAll (files ++ [file])
        = (new.removeAll files).filter fun other => !other == file := by
      rw [List.removeAll, List.removeAll, List.filter_filter]
      refine List.filter_congr fun other _ => ?_
      by_cases hother : other = file <;> simp [hother]
    rw [if_neg hfile, addFiles, addFiles, List.cons_removeAll, if_pos (by simpa using hfile),
      List.eraseDups_cons, hrest, List.append_assoc, List.singleton_append]

theorem addFiles_of_forall_mem (h : ∀ file ∈ new, file ∈ files) : addFiles files new = files := by
  have hnone : new.removeAll files = [] := by
    rw [List.removeAll, List.filter_eq_nil_iff]
    intro file hfile
    simpa using h file hfile
  rw [addFiles, hnone, List.eraseDups_nil, List.append_nil]

theorem addFiles_addFiles (files new : List ModuleId) :
    addFiles (addFiles files new) new = addFiles files new :=
  addFiles_of_forall_mem fun _ hfile => mem_addFiles.mpr (Or.inr hfile)

theorem recordDependencies_eq_addFiles (importer : ModuleId) (specifiers : List Text)
    (c : Component) :
    specifiers.foldl (fun c specifier => (c.recordDependency importer specifier).2) c
      = { c with files := addFiles c.files (specifiers.filterMap (ModuleId.resolve importer)) } := by
  induction specifiers generalizing c with
  | nil => rw [List.foldl_nil, List.filterMap_nil, addFiles_nil]
  | cons specifier specifiers ih =>
    rw [List.foldl_cons, ih, List.filterMap_cons, recordDependency]
    cases ModuleId.resolve importer specifier with
    | none => rfl
    | some file =>
      dsimp only
      rw [addFiles_cons]
      split <;> rfl

end ComponentStyles.Component
