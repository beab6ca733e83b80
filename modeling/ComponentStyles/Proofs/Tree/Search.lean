import ComponentStyles.Proofs.Tree.Place

/-!
# What a search finds

`search_exact`: a search finds the nodes with the tag that satisfy every constraint, one for each
place at which such a node stands, in the order of the places. So it does not matter in which order
constraints are given or how often, more constraints leave a part of what is found, and constraints
of two kinds together find what is found by both.

Proof. What is found is a part of the occurrences, chosen by a test on the node alone
(`map_some_search`), and the test of two lists of constraints is both of their tests
(`isMatch_append`).
-/

namespace ComponentStyles.Node

variable {root n : Node} {tag : String} {constraints others : List Constraint} {place : Place}

/-! ### Matching nodes -/

theorem satisfies_iff {c : Constraint} :
    n.satisfies c = true ↔ ∃ v, c.path.resolve n = some v ∧ v.agrees c.expected = true := by
  rw [satisfies]
  cases c.path.resolve n with
  | none => simp
  | some v => simp

theorem isMatch_iff :
    n.isMatch tag constraints = true ↔ n.tag = tag ∧ ∀ c ∈ constraints, n.satisfies c = true := by
  rw [isMatch, Bool.and_eq_true, beq_iff_eq, List.all_eq_true]

theorem isMatch_append (tag : String) (constraints others : List Constraint) (n : Node) :
    n.isMatch tag (constraints ++ others)
      = (n.isMatch tag constraints && n.isMatch tag others) := by
  rw [Bool.eq_iff_iff, Bool.and_eq_true, isMatch_iff, isMatch_iff, isMatch_iff,
    List.forall_mem_append]
  constructor
  · rintro ⟨htag, hconstraints, hothers⟩
    exact ⟨⟨htag, hconstraints⟩, htag, hothers⟩
  · rintro ⟨⟨htag, hconstraints⟩, _, hothers⟩
    exact ⟨htag, hconstraints, hothers⟩

theorem isMatch_congr (h : ∀ c, c ∈ others ↔ c ∈ constraints) :
    n.isMatch tag others = n.isMatch tag constraints := by
  rw [Bool.eq_iff_iff, isMatch_iff, isMatch_iff]
  exact and_congr_right fun _ => forall_congr' fun c => imp_congr_left (h c)

/-! ### The places of matching nodes -/

def foundAt (root : Node) (tag : String) (constraints : List Constraint) : List Place :=
  (root.occurrences.filter fun o => o.2.isMatch tag constraints).map Prod.fst

theorem mem_foundAt_iff :
    place ∈ root.foundAt tag constraints ↔
      ∃ n, root.at? place = some n ∧ n.isMatch tag constraints = true := by
  rw [foundAt, List.mem_map]
  constructor
  · rintro ⟨⟨p, n⟩, ho, rfl⟩
    obtain ⟨hmem, hmatch⟩ := List.mem_filter.mp ho
    exact ⟨n, mem_occurrences_iff.mp hmem, hmatch⟩
  · rintro ⟨n, hn, hmatch⟩
    exact ⟨(place, n), List.mem_filter.mpr ⟨mem_occurrences_iff.mpr hn, hmatch⟩, rfl⟩

theorem pairwise_foundAt : (root.foundAt tag constraints).Pairwise (· < ·) :=
  List.pairwise_map.mpr ((pairwise_occurrences root).filter _)

theorem map_some_search (root : Node) (tag : String) (constraints : List Constraint) :
    (root.search tag constraints).map some = (root.foundAt tag constraints).map root.at? := by
  have hsearch : root.search tag constraints
      = (root.occurrences.filter fun o => o.2.isMatch tag constraints).map Prod.snd := by
    rw [search_eq_filter, ← map_snd_occurrences, List.filter_map]
    rfl
  rw [hsearch, foundAt, List.map_map, List.map_map]
  refine List.map_congr_left fun o ho => ?_
  exact (mem_occurrences_iff.mp (List.mem_filter.mp ho).1).symm

theorem foundAt_append (root : Node) (tag : String) (constraints others : List Constraint) :
    root.foundAt tag (constraints ++ others)
      = (root.foundAt tag constraints).filter (· ∈ root.foundAt tag others) := by
  show (root.occurrences.filter _).map Prod.fst
    = ((root.occurrences.filter _).map Prod.fst).filter _
  rw [List.filter_map, List.filter_filter]
  refine congrArg (List.map Prod.fst) (List.filter_congr fun o ho => ?_)
  have hat := mem_occurrences_iff.mp ho
  have hothers : decide (o.1 ∈ root.foundAt tag others) = o.2.isMatch tag others := by
    rw [Bool.eq_iff_iff, decide_eq_true_iff, mem_foundAt_iff, hat]
    constructor
    · rintro ⟨n, hn, hmatch⟩
      cases hn
      exact hmatch
    · intro hmatch
      exact ⟨o.2, rfl, hmatch⟩
  show _ = (decide (o.1 ∈ root.foundAt tag others) && _)
  rw [hothers, isMatch_append, Bool.and_comm]

/-! ### Searches -/

theorem not_isEmpty_search_iff :
    (!(root.search tag constraints).isEmpty) = true ↔
      ∃ n ∈ root.preorder, n.tag = tag ∧ ∀ c ∈ constraints, n.satisfies c = true := by
  rw [Bool.not_eq_true', List.isEmpty_eq_false_iff_exists_mem]
  exact exists_congr fun n => mem_search_iff.trans (and_congr_right fun _ => isMatch_iff)

theorem search_congr (h : ∀ c, c ∈ others ↔ c ∈ constraints) :
    root.search tag others = root.search tag constraints := by
  rw [search_eq_filter, search_eq_filter]
  exact List.filter_congr fun n _ => isMatch_congr h

theorem search_append_sublist (root : Node) (tag : String) (constraints others : List Constraint) :
    (root.search tag (constraints ++ others)).Sublist (root.search tag constraints) := by
  rw [search_eq_filter, search_eq_filter, funext (isMatch_append tag constraints others)]
  exact List.monotone_filter_right _ fun n h => (Bool.and_eq_true _ _ ▸ h).1

/-- A search finds the nodes with the tag at which all paths lead to values equal to the expected
ones, each where it stands and in the order of the places. Only the constraints themselves matter to
it, and those added leave what their own search finds as well. -/
theorem search_exact (root : Node) (tag : String) (constraints : List Constraint) :
    (root.search tag constraints).map some = (root.foundAt tag constraints).map root.at? ∧
    (root.foundAt tag constraints).Pairwise (· < ·) ∧
    (∀ place, place ∈ root.foundAt tag constraints ↔
      ∃ n, root.at? place = some n ∧ n.tag = tag ∧
        ∀ c ∈ constraints, ∃ v, c.path.resolve n = some v ∧ v.agrees c.expected = true) ∧
    (∀ others, (∀ c, c ∈ others ↔ c ∈ constraints) →
      root.search tag others = root.search tag constraints) ∧
    ∀ others,
      root.foundAt tag (constraints ++ others)
        = (root.foundAt tag constraints).filter (· ∈ root.foundAt tag others) ∧
      (root.search tag (constraints ++ others)).Sublist (root.search tag constraints) := by
  refine ⟨map_some_search root tag constraints, pairwise_foundAt, fun place => ?_,
    fun others h => search_congr h, fun others =>
    ⟨foundAt_append root tag constraints others, search_append_sublist root tag constraints others⟩⟩
  rw [mem_foundAt_iff]
  refine exists_congr fun n => and_congr_right fun _ => isMatch_iff.trans ?_
  exact and_congr_right fun _ => forall_congr' fun c => imp_congr_right fun _ => satisfies_iff

theorem search_exact_reordered :
    let span : Span := ⟨0, 1⟩
    let specifier : Node := .importSpecifier span ⟨"render", span⟩ ⟨"_sfc_render", span⟩
    let root : Node :=
      .program span
        [.importDeclaration span (.literal span (.string "./a.js")) [specifier, specifier]]
    let imported : Constraint := ⟨.ofString "imported.name", .string "render"⟩
    let bound : Constraint := ⟨.ofString "local.name", .string "_sfc_render"⟩
    root.search "ImportSpecifier" [bound, imported, bound]
        = root.search "ImportSpecifier" [imported, bound] ∧
      [0, 1] ∈ root.foundAt "ImportSpecifier" [imported, bound] := by
  intro span specifier root imported bound
  obtain ⟨_, _, hplaces, hsame, _⟩ := search_exact root "ImportSpecifier" [imported, bound]
  have himported : imported.path = ⟨["imported", "name"]⟩ := by decide
  have hbound : bound.path = ⟨["local", "name"]⟩ := by decide
  refine ⟨hsame _ fun c => ?_, (hplaces [0, 1]).mpr ⟨specifier, rfl, rfl, ?_⟩⟩
  · simp only [List.mem_cons, List.not_mem_nil, or_false]
    rw [or_left_comm, or_self]
  · rw [List.forall_mem_cons, List.forall_mem_singleton, himported, hbound]
    exact ⟨⟨.string "render", rfl, rfl⟩, .string "_sfc_render", rfl, rfl⟩

end ComponentStyles.Node
