import ComponentStyles.ModuleId.Basic
import ComponentStyles.Proofs.Text.Split
import Mathlib.Data.List.Basic

/-!
# Keys of style blocks

A host asks for the same style block in more than one way: with more or fewer parameters, in another
order. `styleKey_redecorated`: none of this changes the key, which is the path of the id with the
kept parameters behind it, in their own order, each with the value that comes first.

Proof. Of a query the key reads, for each kept name, the first segment that shows it, and what is
done to a query leaves the segments of each kept name as they are (`Redecorated.filter_eq`).
-/

namespace ComponentStyles

namespace ModuleId

variable {kept segments segments' : List Text} {params : List (Text × Text)} {path query : Text}

/-! ### The key of a path and parameters -/

def parametersOf (id : ModuleId) : List (Text × Text) :=
  match id.splitFirst? '?' with
  | none => []
  | some (_, query) => query.parameters

def shownOf (s : Settings) (id : ModuleId) : List (Text × Text) :=
  keptParameters s.keptQueryParams id.parametersOf

theorem keptParameters_eq (kept : List Text) (params : List (Text × Text)) :
    keptParameters kept params = kept.filterMap fun name => params.find? fun p => p.1 = name :=
  rfl

/-- Parameters with `&` between them. -/
def listed (params : List (Text × Text)) : Text :=
  Text.join ['&'] (params.map shownParameter)

def withParameters (path : Text) (params : List (Text × Text)) : Text :=
  match params with
  | [] => path
  | params => path ++ '?' :: listed params

theorem styleKey_eq (s : Settings) (id : ModuleId) :
    styleKey s id = withParameters (id.before '?') (shownOf s id) := by
  rw [styleKey, shownOf, parametersOf]
  rcases Text.before_cases '?' id with ⟨hnone, hpath⟩ | ⟨query, hid⟩
  · rw [Text.splitFirst?_of_notMem hnone, hpath]
    have hempty : keptParameters s.keptQueryParams [] = [] := by
      simp [keptParameters_eq]
    rw [hempty]
    rfl
  · rw [hid, Text.splitFirst?_append_cons (Text.notMem_before '?' id), ← hid]
    rfl

theorem parametersOf_append (hpath : '?' ∉ path) (query : Text) :
    parametersOf (path ++ '?' :: query) = query.parameters := by
  rw [parametersOf, Text.splitFirst?_append_cons hpath]

/-! ### Segments -/

/-- A segment of a query shows a parameter. -/
def Shows (name segment : Text) : Prop :=
  segment ≠ [] ∧ (Text.parameter segment).1 = name

instance (name segment : Text) : Decidable (Shows name segment) :=
  inferInstanceAs (Decidable (_ ∧ _))

/-- Ways to ask for the same block: segments that show no kept parameter come and go, and segments
change places, but for those that show the same kept parameter. -/
inductive Redecorated (kept : List Text) : List Text → List Text → Prop where
  | insert (front rest : List Text) {segment : Text}
      (h : segment = [] ∨ (Text.parameter segment).1 ∉ kept) :
      Redecorated kept (front ++ rest) (front ++ segment :: rest)
  | delete (front rest : List Text) {segment : Text}
      (h : segment = [] ∨ (Text.parameter segment).1 ∉ kept) :
      Redecorated kept (front ++ segment :: rest) (front ++ rest)
  | reorder {segments segments' : List Text} (hperm : segments.Perm segments')
      (h : ∀ name ∈ kept, segments.filter (fun segment => Shows name segment)
        = segments'.filter fun segment => Shows name segment) :
      Redecorated kept segments segments'
  | trans {segments segments' segments'' : List Text} (h : Redecorated kept segments segments')
      (h' : Redecorated kept segments' segments'') : Redecorated kept segments segments''

theorem filter_shows_insert {name segment : Text} (hname : name ∈ kept)
    (h : segment = [] ∨ (Text.parameter segment).1 ∉ kept) (front rest : List Text) :
    (front ++ segment :: rest).filter (fun segment => Shows name segment)
      = (front ++ rest).filter fun segment => Shows name segment := by
  have hnot : ¬ Shows name segment := by
    rintro ⟨hne, rfl⟩
    exact h.elim hne fun hnot => hnot hname
  rw [List.filter_append, List.filter_append, List.filter_cons_of_neg (by simpa using hnot)]

theorem Redecorated.filter_eq (h : Redecorated kept segments segments') {name : Text}
    (hname : name ∈ kept) :
    segments.filter (fun segment => Shows name segment)
      = segments'.filter fun segment => Shows name segment := by
  induction h with
  | insert front rest h => exact (filter_shows_insert hname h front rest).symm
  | delete front rest h => exact filter_shows_insert hname h front rest
  | reorder _ h => exact h name hname
  | trans _ _ ih ih' => exact ih.trans ih'

theorem find?_parameters (query : Text) (name : Text) :
    query.parameters.find? (fun p => p.1 = name)
      = ((query.splitOnChar '&').find? fun segment => Shows name segment).map Text.parameter := by
  rw [Text.parameters, List.find?_map, List.find?_filter]
  congr 2
  funext segment
  rw [Bool.eq_iff_iff]
  simp only [decide_eq_true_eq, Function.comp_apply]
  exact Iff.rfl

theorem keptParameters_parameters (kept : List Text) (query : Text) :
    keptParameters kept query.parameters = kept.filterMap fun name =>
      ((query.splitOnChar '&').find? fun segment => Shows name segment).map Text.parameter :=
  List.filterMap_congr fun name _ => find?_parameters query name

/-- The key with a query shows the path and, for each kept name that a segment shows, the parameter
of the first such segment. -/
theorem styleKey_append (s : Settings) (hpath : '?' ∉ path) (query : Text) :
    styleKey s (path ++ '?' :: query)
      = withParameters path (s.keptQueryParams.filterMap fun name =>
          ((query.splitOnChar '&').find? fun segment => Shows name segment).map Text.parameter) := by
  rw [styleKey_eq, shownOf, parametersOf_append hpath, Text.before_append_cons hpath,
    keptParameters_parameters]

/-- The parameters that a key shows: one for each kept name that a segment shows, in the order of the
kept names, with the value from the first segment that shows the name. -/
structure FirstShown (kept segments : List Text) (params : List (Text × Text)) : Prop where
  names : params.map (·.1) = kept.filter fun name => ∃ segment ∈ segments, Shows name segment
  first : ∀ p ∈ params, ∃ front segment rest, segments = front ++ segment :: rest ∧ segment ≠ [] ∧
    Text.parameter segment = p ∧ ∀ segment' ∈ front, ¬ Shows p.1 segment'

theorem firstShown_filterMap (kept segments : List Text) :
    FirstShown kept segments (kept.filterMap fun name =>
      (segments.find? fun segment => Shows name segment).map Text.parameter) where
  names := by
    induction kept with
    | nil => rfl
    | cons name kept ih =>
      rw [List.filterMap_cons]
      cases hfind : segments.find? fun segment => Shows name segment with
      | none =>
        have hnone : ¬ ∃ segment ∈ segments, Shows name segment := by
          simpa using List.find?_eq_none.mp hfind
        rw [List.filter_cons_of_neg (by simpa using hnone)]
        exact ih
      | some segment =>
        have hshows : Shows name segment := by simpa using List.find?_some hfind
        have hsome : ∃ segment ∈ segments, Shows name segment :=
          ⟨segment, List.mem_of_find?_eq_some hfind, hshows⟩
        rw [List.filter_cons_of_pos (by simpa using hsome), ← ih]
        exact congrArg (· :: _) hshows.2
  first := by
    intro p hp
    obtain ⟨name, _, hfind⟩ := List.mem_filterMap.mp hp
    obtain ⟨segment, hsegment, rfl⟩ := Option.map_eq_some_iff.mp hfind
    obtain ⟨hshows, front, rest, rfl, hfront⟩ := List.find?_eq_some_iff_append.mp hsegment
    obtain ⟨hne, rfl⟩ := of_decide_eq_true hshows
    refine ⟨front, segment, rest, rfl, hne, rfl, fun segment' hsegment' => ?_⟩
    simpa using hfront segment' hsegment'

/-- The key of a style block does not depend on what else is in the query or in which order it is
there, and shows nothing else: the path, and the kept parameters in the order of the kept names with
the values that come first. -/
theorem styleKey_redecorated (s : Settings) (hpath : '?' ∉ path) :
    (∀ query query' : Text,
      Redecorated s.keptQueryParams (query.splitOnChar '&') (query'.splitOnChar '&') →
        styleKey s (path ++ '?' :: query) = styleKey s (path ++ '?' :: query')) ∧
    (∀ query : Text, ∃ params, FirstShown s.keptQueryParams (query.splitOnChar '&') params ∧
      styleKey s (path ++ '?' :: query) = withParameters path params) ∧
    (∀ query : Text, (∀ name ∈ s.keptQueryParams, ∀ segment ∈ query.splitOnChar '&',
      ¬ Shows name segment) → styleKey s (path ++ '?' :: query) = path) ∧
    styleKey s (path ++ ['?']) = path ∧ styleKey s path = path := by
  have hbare : ∀ query : Text, (∀ name ∈ s.keptQueryParams, ∀ segment ∈ query.splitOnChar '&',
      ¬ Shows name segment) → styleKey s (path ++ '?' :: query) = path := by
    intro query hnone
    have hempty : (s.keptQueryParams.filterMap fun name =>
        ((query.splitOnChar '&').find? fun segment => Shows name segment).map Text.parameter)
        = [] := by
      rw [List.filterMap_eq_nil_iff]
      intro name hname
      rw [Option.map_eq_none_iff, List.find?_eq_none]
      exact fun segment hsegment => by simpa using hnone name hname segment hsegment
    rw [styleKey_append s hpath, hempty]
    rfl
  refine ⟨fun query query' h => ?_, fun query => ?_, hbare, hbare [] ?_, ?_⟩
  · -- the first segment with a name is the first of those with the name, which stay as they are
    rw [styleKey_append s hpath, styleKey_append s hpath]
    congr 1
    refine List.filterMap_congr fun name hname => ?_
    rw [← List.head?_filter, ← List.head?_filter, h.filter_eq hname]
  · exact ⟨_, firstShown_filterMap _ _, styleKey_append s hpath query⟩
  · rintro name _ segment hsegment ⟨hne, _⟩
    exact hne (List.mem_singleton.mp hsegment)
  · rw [styleKey, Text.splitFirst?_of_notMem hpath]

theorem styleKey_redecorated_scoped :
    let path : Text := "/A.vue".toList
    let query : Text := "scoped=1&t%79pe=style&index=0&lang.css&index=1".toList
    let query' : Text := "lang.css&index=0&&index=1&t%79pe=style".toList
    '?' ∉ path ∧
      Redecorated ({} : Settings).keptQueryParams (query.splitOnChar '&') (query'.splitOnChar '&') ∧
      styleKey {} (path ++ '?' :: query) = styleKey {} (path ++ '?' :: query') ∧
      styleKey {} (path ++ ['?']) = path := by
  intro path query query'
  have hpath : '?' ∉ path := by decide
  have hquery : query.splitOnChar '&' = [] ++ "scoped=1".toList ::
      ["t%79pe=style".toList, "index=0".toList, "lang.css".toList, "index=1".toList] := by decide
  have hquery' : query'.splitOnChar '&' = ["lang.css".toList, "index=0".toList] ++ [] ::
      ["index=1".toList, "t%79pe=style".toList] := by decide
  have hredecorated : Redecorated ({} : Settings).keptQueryParams (query.splitOnChar '&')
      (query'.splitOnChar '&') := by
    rw [hquery, hquery']
    refine .trans (.delete _ _ (Or.inr (by decide +kernel))) (.trans ?_ (.insert _ _ (Or.inl rfl)))
    exact .reorder (by decide) (List.forall_mem_cons.mpr ⟨by decide +kernel, by decide +kernel⟩)
  obtain ⟨hkey, _, _, hempty, _⟩ := styleKey_redecorated {} hpath
  exact ⟨hpath, hredecorated, hkey query query' hredecorated, hempty⟩

end ModuleId

end ComponentStyles
