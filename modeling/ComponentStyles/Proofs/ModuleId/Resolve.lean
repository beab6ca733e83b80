import ComponentStyles.ModuleId.Import
import ComponentStyles.Proofs.Text.Split

/-!
# Resolved imports

The id of an imported module has to be the very text by which the host knows the module.
`resolve_canonical`: whatever dots and slashes an import is written with, it resolves to a path from
the root that is written in the only way without any, and that resolves to itself from everywhere.
The path is where one gets by following the import segment by segment (`walk`), from the root or
from the directory of the importing file.

Proof. Resolving keeps the names on a stack, the last one first, and leaves out segments that say
nothing beforehand; following the segments does both on the way (`reverse_foldl_pushSegment`,
`walk_filter`). Only names are ever kept (`isName_of_mem_walk`), and following names adds them
(`walk_of_forall_isName`), so what has been resolved stays as it is.
-/

namespace ComponentStyles

namespace FilePath

variable {names segments : List Text} {path : Text}

/-! ### Following segments -/

/-- A segment that says nothing about where to go. -/
def IsSilent (segment : Text) : Prop := segment = [] ∨ segment = ['.']

instance (segment : Text) : Decidable (IsSilent segment) :=
  inferInstanceAs (Decidable (_ ∨ _))

/-- A segment that is the name of a file or a directory. -/
def IsName (segment : Text) : Prop :=
  ¬ IsSilent segment ∧ segment ≠ ['.', '.'] ∧ '/' ∉ segment

instance (segment : Text) : Decidable (IsName segment) :=
  inferInstanceAs (Decidable (_ ∧ _))

/-- Where a segment leads from a directory, given by its names from the root on: `..` goes back to
the directory above, if there is one. -/
def enter (names : List Text) (segment : Text) : List Text :=
  if IsSilent segment then names
  else if segment = ['.', '.'] then names.dropLast
  else names ++ [segment]

/-- Where segments lead one after the other. -/
def walk (names segments : List Text) : List Text :=
  segments.foldl enter names

/-- The segments of the directory in which a file lies: those of its path but for the last one,
which names the file. -/
def directorySegments (path : Text) : List Text :=
  ((path.splitOnChar '/').filter fun segment => ¬ IsSilent segment).dropLast

/-- The path from the root by names. -/
def fromRoot (names : List Text) : Text :=
  '/' :: Text.join ['/'] names

theorem enter_of_isSilent {segment : Text} (h : IsSilent segment) : enter names segment = names :=
  if_pos h

theorem enter_of_isName {segment : Text} (h : IsName segment) :
    enter names segment = names ++ [segment] := by
  rw [enter, if_neg h.1, if_neg h.2.1]

theorem walk_of_forall_isName (h : ∀ segment ∈ segments, IsName segment) :
    walk names segments = names ++ segments := by
  induction segments generalizing names with
  | nil => exact (List.append_nil names).symm
  | cons segment segments ih =>
    obtain ⟨hsegment, hsegments⟩ := List.forall_mem_cons.mp h
    rw [walk, List.foldl_cons, enter_of_isName hsegment]
    exact (ih hsegments).trans (List.append_assoc ..)

theorem isName_of_mem_walk (hnames : ∀ name ∈ names, IsName name)
    (hsegments : ∀ segment ∈ segments, '/' ∉ segment) : ∀ name ∈ walk names segments, IsName name := by
  induction segments generalizing names with
  | nil => exact hnames
  | cons segment segments ih =>
    obtain ⟨hsegment, hsegments⟩ := List.forall_mem_cons.mp hsegments
    refine ih (fun name hname => ?_) hsegments
    unfold enter at hname
    split at hname
    · exact hnames name hname
    · rename_i hsilent
      split at hname
      · exact hnames name ((List.dropLast_sublist names).subset hname)
      · rename_i hback
        rcases List.mem_append.mp hname with hname | hname
        · exact hnames name hname
        · rw [List.mem_singleton.mp hname]
          exact ⟨hsilent, hback, hsegment⟩

theorem walk_filter : walk names (segments.filter fun segment => ¬ IsSilent segment)
    = walk names segments := by
  induction segments generalizing names with
  | nil => rfl
  | cons segment segments ih =>
    by_cases h : IsSilent segment
    · rw [List.filter_cons_of_neg (by simpa using h), ih]
      exact congrArg (walk · segments) (enter_of_isSilent h).symm
    · rw [List.filter_cons_of_pos (by simpa using h)]
      exact ih

/-! ### The stack of segments -/

theorem reverse_foldl_pushSegment (stack : List Text)
    (h : ∀ segment ∈ segments, ¬ IsSilent segment) :
    (segments.foldl pushSegment stack).reverse = walk stack.reverse segments := by
  induction segments generalizing stack with
  | nil => rfl
  | cons segment segments ih =>
    obtain ⟨hsegment, hsegments⟩ := List.forall_mem_cons.mp h
    rw [List.foldl_cons, ih _ hsegments, walk, walk, List.foldl_cons]
    congr 1
    rw [pushSegment, enter, if_neg hsegment]
    split
    · rw [List.drop_one, List.dropLast_reverse]
    · exact List.reverse_cons

theorem ofText_segments (t : Text) :
    (ofText t).segments = (t.splitOnChar '/').filter fun segment => ¬ IsSilent segment := by
  rw [ofText]
  refine List.filter_congr fun segment _ => ?_
  simp [IsSilent]

theorem not_isSilent_of_mem_ofText {t segment : Text} (h : segment ∈ (ofText t).segments) :
    ¬ IsSilent segment := by
  rw [ofText_segments, List.mem_filter] at h
  exact of_decide_eq_true h.2

theorem toText_normalize {base : FilePath} (habsolute : base.absolute = true)
    (h : ∀ segment ∈ base.segments, ¬ IsSilent segment) :
    base.normalize.toText = fromRoot (walk [] base.segments) := by
  rw [toText, normalize, if_pos habsolute, reverse_foldl_pushSegment [] h]
  rfl

theorem directoryOf_eq (hpath : path.head? = some '/') :
    directoryOf path = { absolute := true, segments := directorySegments path } := by
  have hne : path ≠ [] := by
    rintro rfl
    cases hpath
  rw [directoryOf, if_neg hne, directorySegments, ← ofText_segments, ofText, hpath]
  rfl

theorem forall_mem_directorySegments {p : Text → Prop}
    (h : ∀ segment ∈ path.splitOnChar '/', ¬ IsSilent segment → p segment) :
    ∀ segment ∈ directorySegments path, p segment := by
  intro segment hsegment
  obtain ⟨hmem, hspoken⟩ := List.mem_filter.mp ((List.dropLast_sublist _).subset hsegment)
  exact h segment hmem (of_decide_eq_true hspoken)

theorem walk_fromRoot (h : ∀ name ∈ names, IsName name) :
    walk [] ((fromRoot names).splitOnChar '/') = names := by
  have hsplit : (fromRoot names).splitOnChar '/'
      = [] :: (Text.join ['/'] names).splitOnChar '/' :=
    Text.splitOnChar_append_cons '/' [] _
  have hsilent : walk [] ((fromRoot names).splitOnChar '/')
      = walk [] ((Text.join ['/'] names).splitOnChar '/') := by
    rw [hsplit]
    rfl
  rw [hsilent]
  by_cases hne : names = []
  · rw [hne]
    rfl
  · rw [Text.splitOnChar_join (fun name hname => (h name hname).2.2) hne]
    exact walk_of_forall_isName h

end FilePath

namespace ModuleId

open FilePath

variable {importer : ModuleId} {specifier : Text}

/-! ### Imports -/

/-- Where the segments of an import start: at the root, or in the directory of the importer. -/
def startOf (importer : ModuleId) (specifier : Text) : List Text :=
  if specifier.head? = some '/' then [] else walk [] (directorySegments (importer.before '?'))

theorem resolve_of_isFileSpecifier (importer : ModuleId)
    (h : specifier.head? = some '.' ∨ specifier.head? = some '/') :
    resolve importer specifier
      = some (((directoryOf (importer.before '?')).join (.ofText specifier)).normalize).toText := by
  refine if_pos ?_
  rcases h with h | h
  · obtain ⟨rest, rfl⟩ := List.head?_eq_some_iff.mp h
    rfl
  · obtain ⟨rest, rfl⟩ := List.head?_eq_some_iff.mp h
    rfl

theorem resolve_of_absolute (importer : ModuleId) (h : specifier.head? = some '/') :
    resolve importer specifier = some (fromRoot (walk [] (specifier.splitOnChar '/'))) := by
  have habsolute : (ofText specifier).absolute = true := decide_eq_true h
  rw [resolve_of_isFileSpecifier importer (Or.inr h), join, if_pos habsolute,
    toText_normalize habsolute fun _ => not_isSilent_of_mem_ofText, ofText_segments, walk_filter]

theorem resolve_of_relative (hroot : (importer.before '?').head? = some '/')
    (h : specifier.head? = some '.') :
    resolve importer specifier
      = some (fromRoot (walk (walk [] (directorySegments (importer.before '?')))
          (specifier.splitOnChar '/'))) := by
  have habsolute : ¬ (ofText specifier).absolute = true := by
    rw [ofText, h]
    exact of_decide_eq_false rfl
  -- the directory may have `..` in it, which is only followed together with the specifier
  have hspoken : ∀ segment ∈ directorySegments (importer.before '?') ++ (ofText specifier).segments,
      ¬ IsSilent segment := by
    intro segment hsegment
    rcases List.mem_append.mp hsegment with hsegment | hsegment
    · exact forall_mem_directorySegments (fun _ _ hspoken => hspoken) segment hsegment
    · exact not_isSilent_of_mem_ofText hsegment
  rw [resolve_of_isFileSpecifier importer (Or.inl h), directoryOf_eq hroot, join, if_neg habsolute,
    toText_normalize rfl hspoken, ofText_segments]
  dsimp only
  rw [walk, List.foldl_append]
  exact congrArg (fun names => some (fromRoot names)) walk_filter

theorem isName_of_mem_startOf : ∀ name ∈ startOf importer specifier, IsName name := by
  unfold startOf
  split
  · exact fun name hname => absurd hname List.not_mem_nil
  · exact isName_of_mem_walk (fun name hname => absurd hname List.not_mem_nil)
      (forall_mem_directorySegments fun _ hsegment _ => Text.notMem_of_mem_splitOnChar hsegment)

theorem resolve_eq (hroot : (importer.before '?').head? = some '/')
    (hspecifier : specifier.head? = some '.' ∨ specifier.head? = some '/') :
    resolve importer specifier
      = some (fromRoot (walk (startOf importer specifier) (specifier.splitOnChar '/'))) := by
  by_cases habsolute : specifier.head? = some '/'
  · rw [resolve_of_absolute importer habsolute, startOf, if_pos habsolute]
  · rw [resolve_of_relative hroot (hspecifier.resolve_right habsolute), startOf, if_neg habsolute]

/-- An import of a file resolves to the path from the root to which its segments lead, written by
names alone, whatever is behind the `?` of the importer. That path is what itself resolves to when it
is imported anywhere. -/
theorem resolve_canonical (hroot : (importer.before '?').head? = some '/')
    (hspecifier : specifier.head? = some '.' ∨ specifier.head? = some '/') :
    ∃ names, (∀ name ∈ names, IsName name) ∧
      names = walk (startOf importer specifier) (specifier.splitOnChar '/') ∧
      (∀ importer' : ModuleId, importer'.before '?' = importer.before '?' →
        resolve importer' specifier = some (fromRoot names)) ∧
      ∀ importer', resolve importer' (fromRoot names) = some (fromRoot names) := by
  have hnames : ∀ name ∈ walk (startOf importer specifier) (specifier.splitOnChar '/'),
      IsName name :=
    isName_of_mem_walk isName_of_mem_startOf fun _ => Text.notMem_of_mem_splitOnChar
  refine ⟨_, hnames, rfl, fun importer' hpath => ?_, fun importer' => ?_⟩
  · rw [resolve_eq (hpath ▸ hroot) hspecifier, startOf, hpath]
    rfl
  · rw [resolve_of_absolute importer' rfl, walk_fromRoot hnames]

theorem resolve_canonical_upwards :
    let importer : ModuleId := "/src/../lib//./A.vue?vue&type=script&lang.ts".toList
    let specifier : Text := "./../../b/.//.c/../d.css?x".toList
    (importer.before '?').head? = some '/' ∧ specifier.head? = some '.' ∧
      startOf importer specifier = ["lib".toList] ∧
      resolve importer specifier = some "/b/d.css?x".toList ∧
      resolve [] "/b/d.css?x".toList = some "/b/d.css?x".toList := by
  intro importer specifier
  have hroot : (importer.before '?').head? = some '/' := by decide
  have hspecifier : specifier.head? = some '.' := by decide
  obtain ⟨names, _, hnames, hresolve, hfixed⟩ := resolve_canonical hroot (Or.inl hspecifier)
  have hpath : fromRoot names = "/b/d.css?x".toList := by
    rw [hnames]
    decide
  rw [hpath] at hresolve hfixed
  exact ⟨hroot, hspecifier, by decide, hresolve importer rfl, hfixed []⟩

end ModuleId

end ComponentStyles
