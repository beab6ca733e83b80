import ComponentStyles.Component
import ComponentStyles.Proofs.ModuleId.Key
import ComponentStyles.Proofs.Text.Occurrence
import ComponentStyles.Proofs.Text.Percent
import Mathlib.Data.List.Infix

/-!
# Keys of different style blocks

The styles of two blocks stay apart as long as their keys do. Keys show the values of parameters as
they are read, not as they were written, so a value may itself look like the parameters behind it,
and the styles of one block take the place of those of another (`exists_shared_key`).

`styleKey_separates`: keys tell all blocks apart exactly if no more than one parameter is kept. If
the kept names have no `&` and no `=` in them, blocks are told apart whose values hide no later
parameter (`Readable`), and every other block shares its key with one of these.

Proof. Parameters are read off a key name by name, in the order of the kept names: a name ends at
the first `=`, and a value that hides no later parameter ends where the next one begins
(`eq_of_listed_eq`). A value that does hide one can be cut there (`exists_legible`), and all
parameters can be written in a query, whatever their values (`Text.parameters_queryOf`).
-/

namespace ComponentStyles

namespace ModuleId

variable {kept : List Text} {name value : Text} {params params' : List (Text × Text)}

/-! ### Blocks -/

/-- The value that an id gives to a parameter: the first, if there are several. -/
def valueOf? (id : ModuleId) (name : Text) : Option Text :=
  (id.parametersOf.find? fun p => p.1 = name).map (·.2)

/-- Two ids ask for the same style block: they have one path and agree in all kept parameters. -/
def SameBlock (s : Settings) (a b : ModuleId) : Prop :=
  a.before '?' = b.before '?' ∧ ∀ name ∈ s.keptQueryParams, valueOf? a name = valueOf? b name

instance (s : Settings) (a b : ModuleId) : Decidable (SameBlock s a b) :=
  inferInstanceAs (Decidable (_ ∧ _))

theorem shownOf_eq (s : Settings) (id : ModuleId) :
    shownOf s id = s.keptQueryParams.filterMap fun name =>
      (valueOf? id name).map fun value => (name, value) := by
  refine List.filterMap_congr fun name _ => ?_
  rw [valueOf?, Option.map_map]
  cases hfind : id.parametersOf.find? fun p => p.1 = name with
  | none => rfl
  | some p =>
    have hp : p.1 = name := by simpa using List.find?_some hfind
    rw [Option.map_some, Function.comp_apply, ← hp]

theorem mem_shownOf_iff {s : Settings} {id : ModuleId} :
    (name, value) ∈ shownOf s id ↔ name ∈ s.keptQueryParams ∧ valueOf? id name = some value := by
  rw [shownOf_eq, List.mem_filterMap]
  constructor
  · rintro ⟨name', hname, hvalue⟩
    obtain ⟨value', hvalue', heq⟩ := Option.map_eq_some_iff.mp hvalue
    obtain ⟨rfl, rfl⟩ := Prod.mk.inj heq
    exact ⟨hname, hvalue'⟩
  · rintro ⟨hname, hvalue⟩
    exact ⟨name, hname, by rw [hvalue, Option.map_some]⟩

theorem sameBlock_iff {s : Settings} {a b : ModuleId} :
    SameBlock s a b ↔ a.before '?' = b.before '?' ∧ shownOf s a = shownOf s b := by
  refine and_congr_right fun _ => ⟨fun h => ?_, fun h name hname => ?_⟩
  · rw [shownOf_eq, shownOf_eq]
    exact List.filterMap_congr fun name hname => by rw [h name hname]
  · have hvalue : ∀ (id : ModuleId) (value : Text),
        valueOf? id name = some value ↔ (name, value) ∈ shownOf s id :=
      fun id value => (mem_shownOf_iff.trans (and_iff_right hname)).symm
    exact Option.ext fun value => by rw [hvalue, hvalue, h]

theorem keptParameters_sublist (kept : List Text) (params : List (Text × Text)) :
    ((keptParameters kept params).map (·.1)).Sublist kept := by
  induction kept with
  | nil => exact List.nil_sublist _
  | cons name kept ih =>
    rw [keptParameters_eq, List.filterMap_cons]
    cases hfind : params.find? fun p => p.1 = name with
    | none => exact ih.cons name
    | some p =>
      have hp : p.1 = name := by simpa using List.find?_some hfind
      rw [List.map_cons, hp]
      exact ih.cons_cons name

theorem eq_nil_of_names_sublist_nil (h : (params.map (·.1)).Sublist []) : params = [] :=
  List.map_eq_nil_iff.mp (List.sublist_nil.mp h)

theorem sublist_names_cases {first : Text} (h : (params.map (·.1)).Sublist (first :: kept)) :
    (params.map (·.1)).Sublist kept ∨
      ∃ value rest, params = (first, value) :: rest ∧ (rest.map (·.1)).Sublist kept := by
  rcases List.sublist_cons_iff.mp h with hskip | ⟨names, hnames, htake⟩
  · exact Or.inl hskip
  · obtain ⟨⟨_, value⟩, rest, rfl, rfl, rfl⟩ := List.map_eq_cons_iff.mp hnames
    exact Or.inr ⟨value, rest, rfl, htake⟩

theorem keptParameters_of_sublist (hkept : kept.Nodup) (h : (params.map (·.1)).Sublist kept) :
    keptParameters kept params = params := by
  induction kept generalizing params with
  | nil =>
    obtain rfl := eq_nil_of_names_sublist_nil h
    rfl
  | cons name kept ih =>
    obtain ⟨hname, hdistinct⟩ := List.nodup_cons.mp hkept
    rw [keptParameters_eq, List.filterMap_cons]
    rcases sublist_names_cases h with hskip | ⟨value, rest, rfl, htake⟩
    · have hnone : (params.find? fun p => p.1 = name) = none := by
        refine List.find?_eq_none.mpr fun p hp heq => hname ?_
        rw [← of_decide_eq_true heq]
        exact hskip.subset (List.mem_map_of_mem hp)
      rw [hnone]
      exact ih hdistinct hskip
    · have hrest : ∀ name' ∈ kept, (((name, value) :: rest).find? fun p => p.1 = name')
          = rest.find? fun p => p.1 = name' := by
        intro name' hname'
        refine List.find?_cons_of_neg fun heq => hname ?_
        rwa [← of_decide_eq_true heq] at hname'
      rw [List.find?_cons_of_pos (by simp), List.filterMap_congr hrest]
      exact congrArg ((name, value) :: ·) (ih hdistinct htake)

/-! ### What a key shows -/

/-- Parameters behind a character, which is only there if any of them are. -/
def listedAfter (c : Char) (params : List (Text × Text)) : Text :=
  match params with
  | [] => []
  | params => c :: listed params

theorem listed_cons (name value : Text) (params : List (Text × Text)) :
    listed ((name, value) :: params) = name ++ '=' :: (value ++ listedAfter '&' params) := by
  cases params with
  | nil => exact congrArg (name ++ '=' :: ·) (List.append_nil value).symm
  | cons p params =>
    rw [listed, List.map_cons, List.map_cons, Text.join_cons_cons, shownParameter,
      List.append_assoc]
    rfl

theorem listed_ne_nil (h : params ≠ []) : listed params ≠ [] := by
  obtain ⟨p, params, rfl⟩ := List.exists_cons_of_ne_nil h
  rw [listed_cons]
  exact List.append_ne_nil_of_right_ne_nil _ (List.cons_ne_nil _ _)

theorem listedAfter_of_ne_nil (c : Char) (h : params ≠ []) :
    listedAfter c params = c :: listed params := by
  obtain ⟨p, params, rfl⟩ := List.exists_cons_of_ne_nil h
  rfl

theorem tail_listedAfter (c : Char) (params : List (Text × Text)) :
    (listedAfter c params).tail = listed params := by
  cases params <;> rfl

theorem listedAfter_inj {c : Char} :
    listedAfter c params = listedAfter c params' ↔ listed params = listed params' := by
  constructor
  · intro h
    rw [← tail_listedAfter c params, h, tail_listedAfter]
  · intro h
    by_cases hnil : params = []
    · obtain rfl : params' = [] := by
        by_contra hnil'
        exact listed_ne_nil hnil' (by rw [← h, hnil]; rfl)
      rw [hnil]
    · have hnil' : params' ≠ [] := by
        rintro rfl
        exact listed_ne_nil hnil h
      rw [listedAfter_of_ne_nil c hnil, listedAfter_of_ne_nil c hnil', h]

theorem withParameters_eq (path : Text) (params : List (Text × Text)) :
    withParameters path params = path ++ listedAfter '?' params := by
  cases params with
  | nil => exact (List.append_nil path).symm
  | cons p params => rfl

theorem before_withParameters {path : Text} (hpath : '?' ∉ path) (params : List (Text × Text)) :
    (withParameters path params).before '?' = path := by
  cases params with
  | nil => exact Text.before_of_notMem hpath
  | cons p params => exact Text.before_append_cons hpath _

theorem styleKey_eq_iff {s : Settings} {a b : ModuleId} :
    styleKey s a = styleKey s b ↔
      a.before '?' = b.before '?' ∧ listed (shownOf s a) = listed (shownOf s b) := by
  rw [styleKey_eq, styleKey_eq]
  constructor
  · intro h
    have hpath : a.before '?' = b.before '?' := by
      rw [← before_withParameters (Text.notMem_before '?' a) (shownOf s a), h,
        before_withParameters (Text.notMem_before '?' b)]
    rw [hpath, withParameters_eq, withParameters_eq] at h
    exact ⟨hpath, listedAfter_inj.mp (List.append_cancel_left h)⟩
  · rintro ⟨hpath, h⟩
    rw [hpath, withParameters_eq, withParameters_eq, listedAfter_inj.mpr h]

/-! ### Values that hide parameters -/

/-- Within the value of a parameter, a parameter seems to begin whose name comes later. -/
def Hides (kept : List Text) (name value : Text) : Prop :=
  ∃ later, [name, later].Sublist kept ∧ '&' :: (later ++ ['=']) <:+: value

instance (kept : List Text) (name value : Text) : Decidable (Hides kept name value) :=
  decidable_of_iff
    (∃ later ∈ kept, [name, later].Sublist kept ∧ '&' :: (later ++ ['=']) <:+: value)
    ⟨fun ⟨later, _, h⟩ => ⟨later, h⟩, fun ⟨later, h⟩ => ⟨later, h.1.subset (by simp), h⟩⟩

/-- No value hides a later parameter. -/
def Legible (kept : List Text) (params : List (Text × Text)) : Prop :=
  ∀ p ∈ params, ¬ Hides kept p.1 p.2

instance (kept : List Text) (params : List (Text × Text)) : Decidable (Legible kept params) :=
  inferInstanceAs (Decidable (∀ p ∈ params, _))

theorem Hides.cons (h : Hides kept name value) (first : Text) :
    Hides (first :: kept) name value := by
  obtain ⟨later, hlater, hvalue⟩ := h
  exact ⟨later, hlater.cons first, hvalue⟩

theorem hides_head_iff {first : Text} :
    Hides (first :: kept) first value ↔
      ∃ later ∈ kept, '&' :: (later ++ ['=']) <:+: value := by
  constructor
  · rintro ⟨later, hlater, hvalue⟩
    exact ⟨later, List.singleton_sublist.mp (List.cons_sublist_cons.mp hlater), hvalue⟩
  · rintro ⟨later, hlater, hvalue⟩
    exact ⟨later, List.cons_sublist_cons.mpr (List.singleton_sublist.mpr hlater), hvalue⟩

theorem legible_cons_iff {first : Text} (hfirst : first ∉ kept)
    (h : (params.map (·.1)).Sublist kept) :
    Legible (first :: kept) params ↔ Legible kept params := by
  refine ⟨fun hlegible p hp hhides => hlegible p hp (hhides.cons first), fun hlegible p hp => ?_⟩
  rintro ⟨later, hlater, hvalue⟩
  refine hlegible p hp ⟨later, ?_, hvalue⟩
  have hne : p.1 ≠ first := fun heq => hfirst (heq ▸ h.subset (List.mem_map_of_mem hp))
  rcases List.sublist_cons_iff.mp hlater with hskip | ⟨names, hnames, _⟩
  · exact hskip
  · exact absurd (List.cons.inj hnames).1 hne

theorem hides_of_listedAfter_eq {first v u : Text} (hplain : ∀ name ∈ kept, '&' ∉ name)
    (h : (params.map (·.1)).Sublist kept)
    (hbehind : listedAfter '&' params = u ++ listedAfter '&' params') (hu : u ≠ []) :
    Hides (first :: kept) first (v ++ u) := by
  -- no kept name has `&` in it, so the one shown there ends before any parameters of `params'`
  cases params with
  | nil => exact absurd (List.append_eq_nil_iff.mp hbehind.symm).1 hu
  | cons p params =>
    have hname : p.1 ∈ kept := h.subset List.mem_cons_self
    obtain ⟨c, u, rfl⟩ := List.exists_cons_of_ne_nil hu
    rw [listedAfter_of_ne_nil '&' (List.cons_ne_nil p params), List.cons_append,
      listed_cons] at hbehind
    obtain ⟨rfl, hrest⟩ := List.cons.inj hbehind
    have hprefix : p.1 ++ ['='] <+: u ++ listedAfter '&' params' := by
      rw [← hrest]
      exact ⟨p.2 ++ listedAfter '&' params, by simp⟩
    have hamp : '&' ∉ p.1 ++ ['='] := by
      rw [List.mem_append, not_or]
      exact ⟨hplain p.1 hname, by decide⟩
    have hu : p.1 ++ ['='] <+: u := by
      by_cases hnil : params' = []
      · rwa [hnil, listedAfter, List.append_nil] at hprefix
      · rw [listedAfter_of_ne_nil '&' hnil] at hprefix
        exact (Text.prefix_append_cons_iff hamp).mp hprefix
    refine hides_head_iff.mpr ⟨p.1, hname, ?_⟩
    exact (List.cons_prefix_cons.mpr ⟨rfl, hu⟩).isInfix.trans (List.suffix_append v _).isInfix

theorem listed_ne_listed_cons {first v : Text} (hequals : '=' ∉ first) (hfirst : first ∉ kept)
    (hplain : ∀ name ∈ kept, '=' ∉ name) (h : (params.map (·.1)).Sublist kept) :
    listed params ≠ listed ((first, v) :: params') := by
  cases params with
  | nil => exact (listed_ne_nil (List.cons_ne_nil _ _)).symm
  | cons p params =>
    intro heq
    have hname : p.1 ∈ kept := h.subset List.mem_cons_self
    rw [listed_cons, listed_cons] at heq
    have hsame := congrArg (Text.before '=') heq
    rw [Text.before_append_cons (hplain p.1 hname), Text.before_append_cons hequals] at hsame
    exact hfirst (hsame ▸ hname)

/-- A value that hides no parameter ends where the next parameter is shown. -/
theorem eq_of_append_listedAfter_eq {first v w : Text} (hplain : ∀ name ∈ kept, '&' ∉ name)
    (h : (params.map (·.1)).Sublist kept) (h' : (params'.map (·.1)).Sublist kept)
    (hv : ¬ Hides (first :: kept) first v) (hw : ¬ Hides (first :: kept) first w)
    (heq : v ++ listedAfter '&' params = w ++ listedAfter '&' params') :
    v = w ∧ listedAfter '&' params = listedAfter '&' params' := by
  rcases List.append_eq_append_iff.mp heq with ⟨u, rfl, hbehind⟩ | ⟨u, rfl, hbehind⟩
  · obtain rfl : u = [] := by
      by_contra hu
      exact hw (hides_of_listedAfter_eq hplain h hbehind hu)
    exact ⟨(List.append_nil v).symm, hbehind⟩
  · obtain rfl : u = [] := by
      by_contra hu
      exact hv (hides_of_listedAfter_eq hplain h' hbehind hu)
    exact ⟨List.append_nil w, hbehind.symm⟩

theorem eq_of_listed_eq (hplain : ∀ name ∈ kept, '&' ∉ name ∧ '=' ∉ name) (hkept : kept.Nodup)
    (h : (params.map (·.1)).Sublist kept) (h' : (params'.map (·.1)).Sublist kept)
    (hlegible : Legible kept params) (hlegible' : Legible kept params')
    (heq : listed params = listed params') : params = params' := by
  -- the first kept name is at the head of both or of none, and its value ends in the same place
  induction kept generalizing params params' with
  | nil =>
    obtain rfl := eq_nil_of_names_sublist_nil h
    obtain rfl := eq_nil_of_names_sublist_nil h'
    rfl
  | cons first kept ih =>
    obtain ⟨hfirst, hdistinct⟩ := List.nodup_cons.mp hkept
    obtain ⟨⟨_, hequals⟩, hplain⟩ := List.forall_mem_cons.mp hplain
    have hequals' : ∀ name ∈ kept, '=' ∉ name := fun name hname => (hplain name hname).2
    rcases sublist_names_cases h with hskip | ⟨v, rest, rfl, htake⟩
    · rcases sublist_names_cases h' with hskip' | ⟨w, rest', rfl, htake'⟩
      · exact ih hplain hdistinct hskip hskip' ((legible_cons_iff hfirst hskip).mp hlegible)
          ((legible_cons_iff hfirst hskip').mp hlegible') heq
      · exact absurd heq (listed_ne_listed_cons hequals hfirst hequals' hskip)
    · rcases sublist_names_cases h' with hskip' | ⟨w, rest', rfl, htake'⟩
      · exact absurd heq.symm (listed_ne_listed_cons hequals hfirst hequals' hskip')
      · obtain ⟨hvalue, hrest⟩ := List.forall_mem_cons.mp hlegible
        obtain ⟨hvalue', hrest'⟩ := List.forall_mem_cons.mp hlegible'
        rw [listed_cons, listed_cons] at heq
        have hends := (List.cons.inj (List.append_cancel_left heq)).2
        obtain ⟨rfl, hbehind⟩ := eq_of_append_listedAfter_eq
          (fun name hname => (hplain name hname).1) htake htake' hvalue hvalue' hends
        have hsame : rest = rest' := ih hplain hdistinct htake htake'
          ((legible_cons_iff hfirst htake).mp hrest) ((legible_cons_iff hfirst htake').mp hrest')
          (listedAfter_inj.mp hbehind)
        rw [hsame]

/-! ### Reading a key -/

theorem exists_first_hidden {first : Text} (h : Hides (first :: kept) first value) :
    ∃ front later rest, later ∈ kept ∧ value = front ++ '&' :: (later ++ '=' :: rest) ∧
      ¬ Hides (first :: kept) first front := by
  induction value with
  | nil =>
    obtain ⟨later, _, hnil⟩ := hides_head_iff.mp h
    exact absurd (List.infix_nil.mp hnil) (List.cons_ne_nil _ _)
  | cons c value ih =>
    by_cases hhere : ∃ later ∈ kept, '&' :: (later ++ ['=']) <+: c :: value
    · obtain ⟨later, hlater, rest, hrest⟩ := hhere
      refine ⟨[], later, rest, hlater, by simp [← hrest], fun hhides => ?_⟩
      obtain ⟨later', _, hnil⟩ := hides_head_iff.mp hhides
      exact absurd (List.infix_nil.mp hnil) (List.cons_ne_nil _ _)
    · obtain ⟨later, hlater, hinfix⟩ := hides_head_iff.mp h
      have htail : '&' :: (later ++ ['=']) <:+: value :=
        (List.infix_cons_iff.mp hinfix).resolve_left fun hprefix =>
          hhere ⟨later, hlater, hprefix⟩
      obtain ⟨front, later, rest, hlater, rfl, hfront⟩ :=
        ih (hides_head_iff.mpr ⟨later, hlater, htail⟩)
      refine ⟨c :: front, later, rest, hlater, rfl, fun hhides => ?_⟩
      obtain ⟨later', hlater', hinfix⟩ := hides_head_iff.mp hhides
      rcases List.infix_cons_iff.mp hinfix with hprefix | hinfix
      · exact hhere ⟨later', hlater', hprefix.trans (List.prefix_append (c :: front) _)⟩
      · exact hfront (hides_head_iff.mpr ⟨later', hlater', hinfix⟩)

/-- Whatever is shown can be read as parameters whose values hide none. -/
theorem exists_legible (hkept : kept.Nodup) (h : (params.map (·.1)).Sublist kept) :
    ∃ params', (params'.map (·.1)).Sublist kept ∧ Legible kept params' ∧
      listed params' = listed params := by
  -- all that is shown behind the first name is its value, up to the first parameter hidden there
  induction kept generalizing params with
  | nil =>
    obtain rfl := eq_nil_of_names_sublist_nil h
    exact ⟨[], h, fun p hp => absurd hp List.not_mem_nil, rfl⟩
  | cons first kept ih =>
    obtain ⟨hfirst, hdistinct⟩ := List.nodup_cons.mp hkept
    rcases sublist_names_cases h with hskip | ⟨v, rest, rfl, htake⟩
    · obtain ⟨params', hnames, hlegible, hlisted⟩ := ih hdistinct hskip
      exact ⟨params', hnames.cons first, (legible_cons_iff hfirst hnames).mpr hlegible, hlisted⟩
    · rw [listed_cons]
      by_cases hhides : Hides (first :: kept) first (v ++ listedAfter '&' rest)
      · obtain ⟨front, later, tail, hlater, hvalue, hfront⟩ := exists_first_hidden hhides
        have hnames : ([(later, tail)].map (·.1)).Sublist kept := List.singleton_sublist.mpr hlater
        obtain ⟨params', hnames, hlegible, hlisted⟩ := ih hdistinct hnames
        refine ⟨(first, front) :: params', List.cons_sublist_cons.mpr hnames,
          List.forall_mem_cons.mpr ⟨hfront, (legible_cons_iff hfirst hnames).mpr hlegible⟩, ?_⟩
        rw [listed_cons, listedAfter_inj.mpr hlisted, hvalue,
          listedAfter_of_ne_nil '&' (List.cons_ne_nil _ _), listed_cons, listedAfter,
          List.append_nil]
      · refine ⟨[(first, v ++ listedAfter '&' rest)],
          List.cons_sublist_cons.mpr (List.nil_sublist kept),
          List.forall_mem_singleton.mpr hhides, ?_⟩
        rw [listed_cons, listedAfter, List.append_nil]

/-! ### Ids with one key -/

def idOf (path : Text) (params : List (Text × Text)) : ModuleId :=
  path ++ '?' :: Text.queryOf params

theorem before_idOf {path : Text} (hpath : '?' ∉ path) (params : List (Text × Text)) :
    (idOf path params).before '?' = path :=
  Text.before_append_cons hpath _

theorem shownOf_idOf {s : Settings} {path : Text} (hpath : '?' ∉ path)
    (hdistinct : s.keptQueryParams.Nodup) (h : (params.map (·.1)).Sublist s.keptQueryParams) :
    shownOf s (idOf path params) = params := by
  rw [shownOf, idOf, parametersOf_append hpath, Text.parameters_queryOf,
    keptParameters_of_sublist hdistinct h]

/-- No value that an id gives to a kept parameter hides a later one. -/
def Readable (s : Settings) (id : ModuleId) : Prop :=
  ∀ name value, valueOf? id name = some value → ¬ Hides s.keptQueryParams name value

theorem readable_iff {s : Settings} {id : ModuleId} :
    Readable s id ↔ Legible s.keptQueryParams (shownOf s id) := by
  constructor
  · intro h p hp
    exact h p.1 p.2 (mem_shownOf_iff.mp hp).2
  · rintro h name value hvalue ⟨later, hlater, hhidden⟩
    have hname : name ∈ s.keptQueryParams := hlater.subset List.mem_cons_self
    exact h (name, value) (mem_shownOf_iff.mpr ⟨hname, hvalue⟩) ⟨later, hlater, hhidden⟩

instance (s : Settings) (id : ModuleId) : Decidable (Readable s id) :=
  decidable_of_iff _ readable_iff.symm

theorem exists_shared_key_of_two {s : Settings} (hdistinct : s.keptQueryParams.Nodup)
    (h : 1 < s.keptQueryParams.length) :
    ∃ a b, styleKey s a = styleKey s b ∧ ¬ SameBlock s a b := by
  obtain ⟨first, second, rest, hkept⟩ : ∃ first second rest,
      s.keptQueryParams = first :: second :: rest := by
    obtain ⟨first, others, hkept⟩ := List.exists_cons_of_length_pos (Nat.zero_lt_of_lt h)
    rw [hkept, List.length_cons] at h
    obtain ⟨second, rest, rfl⟩ := List.exists_cons_of_length_pos (Nat.lt_of_succ_lt_succ h)
    exact ⟨first, second, rest, hkept⟩
  have hpath : '?' ∉ ([] : Text) := List.not_mem_nil
  let one : List (Text × Text) := [(first, '&' :: (second ++ ['=']))]
  let two : List (Text × Text) := [(first, []), (second, [])]
  have hone : (one.map (·.1)).Sublist s.keptQueryParams := by
    rw [hkept]
    exact List.cons_sublist_cons.mpr (List.nil_sublist _)
  have htwo : (two.map (·.1)).Sublist s.keptQueryParams := by
    rw [hkept]
    exact List.cons_sublist_cons.mpr (List.cons_sublist_cons.mpr (List.nil_sublist _))
  refine ⟨idOf [] one, idOf [] two, ?_, ?_⟩
  · rw [styleKey_eq_iff, before_idOf hpath, before_idOf hpath, shownOf_idOf hpath hdistinct hone,
      shownOf_idOf hpath hdistinct htwo]
    refine ⟨rfl, ?_⟩
    rw [listed_cons, listed_cons, listedAfter_of_ne_nil '&' (List.cons_ne_nil _ _), listed_cons]
    simp [listedAfter]
  · rw [sameBlock_iff, shownOf_idOf hpath hdistinct hone, shownOf_idOf hpath hdistinct htwo]
    exact fun hsame => absurd (congrArg List.length hsame.2) (Nat.ne_of_lt (Nat.lt_succ_self 1))

theorem names_sublist_singleton_cases (h : (params.map (·.1)).Sublist [name]) :
    params = [] ∨ ∃ value, params = [(name, value)] := by
  rcases sublist_names_cases h with hskip | ⟨value, rest, rfl, htake⟩
  · exact Or.inl (eq_nil_of_names_sublist_nil hskip)
  · rw [eq_nil_of_names_sublist_nil htake]
    exact Or.inr ⟨value, rfl⟩

theorem eq_of_listed_eq_of_length_le_one (hkept : kept.length ≤ 1)
    (h : (params.map (·.1)).Sublist kept) (h' : (params'.map (·.1)).Sublist kept)
    (heq : listed params = listed params') : params = params' := by
  cases kept with
  | nil => rw [eq_nil_of_names_sublist_nil h, eq_nil_of_names_sublist_nil h']
  | cons name others =>
    obtain rfl : others = [] :=
      List.length_eq_zero_iff.mp (Nat.le_zero.mp (Nat.le_of_succ_le_succ hkept))
    rcases names_sublist_singleton_cases h with rfl | ⟨value, rfl⟩
    · rcases names_sublist_singleton_cases h' with rfl | ⟨value', rfl⟩
      · rfl
      · exact absurd heq.symm (listed_ne_nil (List.cons_ne_nil _ _))
    · rcases names_sublist_singleton_cases h' with rfl | ⟨value', rfl⟩
      · exact absurd heq (listed_ne_nil (List.cons_ne_nil _ _))
      · rw [listed_cons, listed_cons] at heq
        have hvalue := (List.cons.inj (List.append_cancel_left heq)).2
        rw [List.append_cancel_right hvalue]

/-- Keys tell all style blocks apart just if no more than one parameter is kept. Under names without
separators, they tell those blocks apart whose values hide no later parameter, and every other block
has its key from one of these. -/
theorem styleKey_separates (s : Settings) (hdistinct : s.keptQueryParams.Nodup) :
    ((∀ a b, styleKey s a = styleKey s b → SameBlock s a b) ↔ s.keptQueryParams.length ≤ 1) ∧
    ((∀ name ∈ s.keptQueryParams, '&' ∉ name ∧ '=' ∉ name) →
      (∀ a b, Readable s a → Readable s b → styleKey s a = styleKey s b → SameBlock s a b) ∧
      ∀ a, ¬ Readable s a → ∃ b, Readable s b ∧ styleKey s a = styleKey s b ∧ ¬ SameBlock s a b) := by
  have hnames : ∀ id, ((shownOf s id).map (·.1)).Sublist s.keptQueryParams :=
    fun id => keptParameters_sublist _ _
  refine ⟨⟨fun h => ?_, fun h a b hkey => ?_⟩, fun hplain => ⟨fun a b ha hb hkey => ?_, ?_⟩⟩
  · by_contra hlength
    obtain ⟨a, b, hkey, hdifferent⟩ := exists_shared_key_of_two hdistinct (Nat.not_le.mp hlength)
    exact hdifferent (h a b hkey)
  · obtain ⟨hpath, hlisted⟩ := styleKey_eq_iff.mp hkey
    exact sameBlock_iff.mpr
      ⟨hpath, eq_of_listed_eq_of_length_le_one h (hnames a) (hnames b) hlisted⟩
  · obtain ⟨hpath, hlisted⟩ := styleKey_eq_iff.mp hkey
    exact sameBlock_iff.mpr ⟨hpath, eq_of_listed_eq hplain hdistinct (hnames a) (hnames b)
      (readable_iff.mp ha) (readable_iff.mp hb) hlisted⟩
  · intro a ha
    obtain ⟨params, hsublist, hlegible, hlisted⟩ := exists_legible hdistinct (hnames a)
    have hpath := Text.notMem_before '?' a
    -- the key of `a` itself, read as parameters, is that of a block nothing is hidden in
    have hshown := shownOf_idOf hpath hdistinct hsublist
    refine ⟨idOf (a.before '?') params, ?_, ?_, ?_⟩
    · rwa [readable_iff, hshown]
    · rw [styleKey_eq_iff, before_idOf hpath, hshown, hlisted]
      exact ⟨rfl, rfl⟩
    · rw [sameBlock_iff, hshown]
      rintro ⟨_, rfl⟩
      exact ha (readable_iff.mpr hlegible)

theorem styleKey_separates_default :
    let a : ModuleId := "/A.vue?vue&type=style&index=0&lang.css".toList
    let b : ModuleId := "/A.vue?index=0&t%79pe=style".toList
    let c : ModuleId := "/A.vue?type=style%26index=0".toList
    ({} : Settings).keptQueryParams.Nodup ∧ Readable {} a ∧ Readable {} b ∧
      styleKey {} a = styleKey {} b ∧ SameBlock {} a b ∧ ¬ Readable {} c ∧
      ∃ d, Readable {} d ∧ styleKey {} c = styleKey {} d ∧ ¬ SameBlock {} c d := by
  intro a b c
  have hdistinct : ({} : Settings).keptQueryParams.Nodup := by decide
  have ha : Readable {} a := by decide +kernel
  have hb : Readable {} b := by decide +kernel
  have hc : ¬ Readable {} c := by decide +kernel
  have hkey : styleKey {} a = styleKey {} b := by decide +kernel
  obtain ⟨_, hplain⟩ := styleKey_separates {} hdistinct
  obtain ⟨htold, hshared⟩ := hplain (by decide)
  exact ⟨hdistinct, ha, hb, hkey, htold a b ha hb hkey, hc, hshared c hc⟩

/-- One of two blocks has no index and the other one has, and their keys are the same: only the
styles that are stored last are left. -/
theorem exists_shared_key :
    let a : ModuleId := "/A.vue?type=style%26index%3D0".toList
    let b : ModuleId := "/A.vue?type=style&index=0".toList
    ({} : Settings).keptQueryParams.Nodup ∧ styleKey {} a = styleKey {} b ∧ ¬ SameBlock {} a b ∧
      ((Component.fresh [] []).recordStyle {} a "a".toList |>.recordStyle {} b "b".toList).css
        = [(styleKey {} a, "b".toList)] := by
  decide +kernel

end ModuleId

end ComponentStyles
