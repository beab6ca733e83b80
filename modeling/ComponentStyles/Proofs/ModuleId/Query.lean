import ComponentStyles.Proofs.ModuleId.Resolve

/-!
# Queries of imports

An import of a block has a query behind its path, and the host asks for the block by the id with
that very query. But resolving takes the whole import for a path. `resolve_query_iff`: a query is
kept as it is exactly if every segment behind its first slash is a name, so that following it leads
nowhere else. A query that carries a path with `..` or an empty segment in it comes out as another
one (`exists_query_rewritten`), and the block is not known when the host asks for it.

Proof. The first slash of the query ends the segment of the file, which is a name with any query
behind it. The segments after it are followed like all others (`resolve_append_query`), and paths by
names are split in one way only (`eq_of_fromRoot_eq`).
-/

namespace ComponentStyles

namespace FilePath

variable {names segments : List Text} {path query : Text}

def lastSegment (path : Text) : Text :=
  (path.splitOnChar '/').getLast (Text.splitOnChar_ne_nil '/' path)

theorem splitOnChar_eq_concat (path : Text) :
    path.splitOnChar '/' = (path.splitOnChar '/').dropLast ++ [lastSegment path] :=
  (List.dropLast_concat_getLast (Text.splitOnChar_ne_nil '/' path)).symm

theorem IsName.append_query {name : Text} (h : IsName name) (hquery : '/' ∉ query) :
    IsName (name ++ '?' :: query) := by
  have hmark : '?' ∈ name ++ '?' :: query := by simp
  refine ⟨?_, ?_, ?_⟩
  · rintro (heq | heq) <;> rw [heq] at hmark <;> exact absurd hmark (by decide)
  · intro heq
    rw [heq] at hmark
    exact absurd hmark (by decide)
  · rw [List.mem_append, List.mem_cons, not_or, not_or]
    exact ⟨h.2.2, by decide, hquery⟩

theorem eq_of_fromRoot_eq (hnames : ∀ name ∈ names, IsName name)
    (hsegments : ∀ segment ∈ segments, '/' ∉ segment) (hspoken : ∃ segment ∈ segments, segment ≠ [])
    (h : fromRoot names = fromRoot segments) : names = segments := by
  have hjoin : Text.join ['/'] names = Text.join ['/'] segments := (List.cons.inj h).2
  obtain ⟨segment, hsegment, hne⟩ := hspoken
  have hsplit := Text.splitOnChar_join hsegments (List.ne_nil_of_mem hsegment)
  rw [← hjoin] at hsplit
  by_cases hnil : names = []
  · -- the path of the root is empty, and so would be the segment
    rw [hnil] at hsplit
    rw [← hsplit] at hsegment
    exact absurd (List.mem_singleton.mp hsegment) hne
  · rw [← hsplit, Text.splitOnChar_join (fun name hname => (hnames name hname).2.2) hnil]

/-- Segments lead to what they are written as exactly if all of them are names. -/
theorem fromRoot_walk_eq_iff (hnames : ∀ name ∈ names, IsName name) (hne : names ≠ [])
    (hsegments : ∀ segment ∈ segments, '/' ∉ segment) :
    fromRoot (walk names segments) = fromRoot (names ++ segments) ↔
      ∀ segment ∈ segments, IsName segment := by
  constructor
  · intro h
    obtain ⟨name, hname⟩ := List.exists_mem_of_ne_nil names hne
    have hwalk := isName_of_mem_walk hnames hsegments
    have heq : walk names segments = names ++ segments := by
      refine eq_of_fromRoot_eq hwalk (fun segment hsegment => ?_)
        ⟨name, List.mem_append_left _ hname, fun hnil => (hnames name hname).1 (Or.inl hnil)⟩ h
      rcases List.mem_append.mp hsegment with hsegment | hsegment
      · exact (hnames segment hsegment).2.2
      · exact hsegments segment hsegment
    rw [heq] at hwalk
    exact fun segment hsegment => hwalk segment (List.mem_append_right _ hsegment)
  · intro h
    rw [walk_of_forall_isName h]

end FilePath

namespace ModuleId

open FilePath

variable {importer : ModuleId} {path query first : Text} {rest : List Text}

/-! ### Imports with a query -/

/-- The names of the directory to which an import leads, before the name of its file. -/
def directoryNames (importer : ModuleId) (path : Text) : List Text :=
  walk (startOf importer path) (path.splitOnChar '/').dropLast

theorem isName_of_mem_directoryNames : ∀ name ∈ directoryNames importer path, IsName name :=
  isName_of_mem_walk isName_of_mem_startOf fun _ hsegment =>
    Text.notMem_of_mem_splitOnChar ((List.dropLast_sublist _).subset hsegment)

theorem resolve_of_isName (hroot : (importer.before '?').head? = some '/')
    (hpath : path.head? = some '.' ∨ path.head? = some '/') (hname : IsName (lastSegment path)) :
    resolve importer path = some (fromRoot (directoryNames importer path ++ [lastSegment path])) := by
  rw [resolve_eq hroot hpath, splitOnChar_eq_concat path, walk, List.foldl_append, List.foldl_cons,
    List.foldl_nil, enter_of_isName hname]
  rfl

/-- An import with a query leads to the file with the query up to its first slash, and on from
there. -/
theorem resolve_append_query (hroot : (importer.before '?').head? = some '/')
    (hpath : path.head? = some '.' ∨ path.head? = some '/') (hname : IsName (lastSegment path))
    (hquery : query.splitOnChar '/' = first :: rest) :
    resolve importer (path ++ '?' :: query)
      = some (fromRoot (walk (directoryNames importer path ++ [lastSegment path ++ '?' :: first])
          rest)) := by
  have hfirst : '/' ∉ first :=
    Text.notMem_of_mem_splitOnChar (t := query) (hquery ▸ List.mem_cons_self)
  have hmarked : Text.splitOnChar '/' ('?' :: query) = ('?' :: first) :: rest := by
    rw [Text.splitOnChar, if_neg (by decide), hquery]
  have hhead : (path ++ '?' :: query).head? = path.head? := by
    cases path with
    | nil => rcases hpath with hpath | hpath <;> cases hpath
    | cons c path => rfl
  rw [resolve_eq hroot (hhead ▸ hpath), startOf, hhead,
    Text.splitOnChar_append (splitOnChar_eq_concat path) hmarked, walk, List.foldl_append,
    List.foldl_cons, enter_of_isName (hname.append_query hfirst)]
  rfl

/-- An import of a file by name resolves to some id, and with a query to that id with the query
exactly if the segments behind the first slash of the query are names. -/
theorem resolve_query_iff (hroot : (importer.before '?').head? = some '/')
    (hpath : path.head? = some '.' ∨ path.head? = some '/') (hname : IsName (lastSegment path)) :
    ∃ id, resolve importer path = some id ∧
      ∀ query : Text, resolve importer (path ++ '?' :: query) = some (id ++ '?' :: query) ↔
        ∀ segment ∈ (query.splitOnChar '/').tail, IsName segment := by
  refine ⟨_, resolve_of_isName hroot hpath hname, fun query => ?_⟩
  obtain ⟨first, rest, hquery⟩ := List.exists_cons_of_ne_nil (Text.splitOnChar_ne_nil '/' query)
  have hsegments : ∀ segment ∈ first :: rest, '/' ∉ segment :=
    hquery ▸ fun _ => Text.notMem_of_mem_splitOnChar
  obtain ⟨hfirst, hrest⟩ := List.forall_mem_cons.mp hsegments
  have hnames : ∀ name ∈ directoryNames importer path ++ [lastSegment path ++ '?' :: first],
      IsName name := by
    intro name hmem
    rcases List.mem_append.mp hmem with hmem | hmem
    · exact isName_of_mem_directoryNames name hmem
    · rw [List.mem_singleton.mp hmem]
      exact hname.append_query hfirst
  have hwritten : fromRoot (directoryNames importer path ++ [lastSegment path]) ++ '?' :: query
      = fromRoot (directoryNames importer path ++ [lastSegment path ++ '?' :: first] ++ rest) := by
    have hmarked : '?' :: query = Text.join ['/'] (('?' :: first) :: rest) := by
      rw [← Text.join_splitOnChar '/' query, hquery]
      cases rest <;> rfl
    rw [hmarked, fromRoot, List.cons_append, Text.join_append_join, List.append_assoc]
    rfl
  rw [hquery, resolve_append_query hroot hpath hname hquery, hwritten, Option.some_inj]
  exact fromRoot_walk_eq_iff hnames (by simp) hrest

theorem resolve_query_iff_block :
    let importer : ModuleId := "/src/A.vue".toList
    let path : Text := "./A.vue".toList
    let block : Text := "vue&type=style&lang.css".toList
    let source : Text := "vue&src=lib/a.css".toList
    ∃ id, resolve importer path = some id ∧
      resolve importer (path ++ '?' :: block) = some (id ++ '?' :: block) ∧
      resolve importer (path ++ '?' :: source) = some (id ++ '?' :: source) := by
  intro importer path block source
  have hroot : (importer.before '?').head? = some '/' := by decide
  have hpath : path.head? = some '.' := by decide
  have hname : IsName (lastSegment path) := by decide
  have hblock : ∀ segment ∈ (block.splitOnChar '/').tail, IsName segment := by decide
  have hsource : ∀ segment ∈ (source.splitOnChar '/').tail, IsName segment := by decide
  obtain ⟨id, hid, hquery⟩ := resolve_query_iff hroot (Or.inl hpath) hname
  exact ⟨id, hid, (hquery block).mpr hblock, (hquery source).mpr hsource⟩

/-- The path in a query is followed as if it were one of the import. -/
theorem exists_query_rewritten :
    let importer : ModuleId := "/src/A.vue".toList
    let path : Text := "./A.vue".toList
    let query : Text := "vue&type=style&index=0&src=/theme/../base.css&lang.css".toList
    resolve importer path = some "/src/A.vue".toList ∧
      resolve importer (path ++ '?' :: query)
        = some "/src/A.vue?vue&type=style&index=0&src=/base.css&lang.css".toList ∧
      resolve importer (path ++ '?' :: query) ≠ some ("/src/A.vue".toList ++ '?' :: query) := by
  decide

end ModuleId

end ComponentStyles
