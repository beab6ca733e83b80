import ComponentStyles.Json.Equality
import ComponentStyles.Proofs.Number.Value
import Mathlib.Data.List.Nodup
import Mathlib.Data.List.Perm.Subperm

/-!
# Equality of JSON values

The equality by which attributes are matched compares sizes, and looks up the keys of one side only. On
values whose numbers are finite and whose objects have no key twice (`Proper`) it is an equivalence all
the same, and two values are equal exactly if they have the same content (`SameContent`): numbers with
one value, arrays of one length with equal items, objects with one set of keys and equal values under
each key (`agrees_equivalence`). Values of two kinds never have.

Proof. Distinct keys that are as many as those of the other side, and all among them, are its keys
(`mem_iff_of_subset`). So equality is the same content up to equality (`agrees_iff_sameContent`), which
favours no side, and the three laws go from the entries of a value to the value (`Proper.induct`).
-/

namespace ComponentStyles.Json

/-! ### Values and their content -/

/-- A value with finite numbers only, and without an object that has a key twice. -/
inductive Proper : Json → Prop
  | null : Proper .null
  | bool (v : Bool) : Proper (.bool v)
  | number {n : JsonNumber} (hfinite : n.toBinary64.isFinite = true) : Proper (.number n)
  | string (t : String) : Proper (.string t)
  | array {items : List Json} (hitems : ∀ a ∈ items, Proper a) : Proper (.array items)
  | object {members : List (String × Json)} (hkeys : (members.map (·.1)).Nodup)
      (hvalues : ∀ m ∈ members, Proper m.2) : Proper (.object members)

/-- Values of one kind with the same content, given which of their entries are the same. -/
inductive SameContent (R : Json → Json → Prop) : Json → Json → Prop
  | null : SameContent R .null .null
  | bool (v : Bool) : SameContent R (.bool v) (.bool v)
  | number {m n : JsonNumber} (hvalue : m.toBinary64.value = n.toBinary64.value) :
      SameContent R (.number m) (.number n)
  | string (t : String) : SameContent R (.string t) (.string t)
  | array {as bs : List Json} (hlength : as.length = bs.length)
      (hitems : ∀ (i : Nat) (a b : Json), as[i]? = some a → bs[i]? = some b → R a b) :
      SameContent R (.array as) (.array bs)
  | object {as bs : List (String × Json)}
      (hkeys : ∀ key, key ∈ as.map (·.1) ↔ key ∈ bs.map (·.1))
      (hvalues : ∀ key a b, (key, a) ∈ as → (key, b) ∈ bs → R a b) :
      SameContent R (.object as) (.object bs)

def entries : Json → List Json
  | .array items => items
  | .object members => members.map (·.2)
  | _ => []

variable {a b c : Json}

theorem mem_entries_object {members : List (String × Json)} {key : String}
    (h : (key, a) ∈ members) : a ∈ (object members).entries :=
  List.mem_map_of_mem (f := (·.2)) h

namespace Proper

theorem of_mem_entries (ha : Proper a) (hb : b ∈ a.entries) : Proper b := by
  cases ha with
  | array hitems => exact hitems b hb
  | object _ hvalues =>
    obtain ⟨m, hm, rfl⟩ := List.mem_map.mp hb
    exact hvalues m hm
  | _ => cases hb

/-- What goes from the entries of a value to the value holds of all values. -/
@[elab_as_elim]
theorem induct {P : (a : Json) → Proper a → Prop}
    (step : ∀ a (ha : Proper a), (∀ b (hb : b ∈ a.entries), P b (ha.of_mem_entries hb)) → P a ha)
    {a : Json} (ha : Proper a) : P a ha := by
  induction ha with
  | array hitems ih => exact step _ _ ih
  | object hkeys hvalues ih =>
    refine step _ _ fun b hb => ?_
    obtain ⟨m, hm, rfl⟩ := List.mem_map.mp hb
    exact ih m hm
  | _ => exact step _ _ fun b hb => absurd hb List.not_mem_nil

end Proper

namespace SameContent

variable {R S : Json → Json → Prop}

theorem refl (ha : Proper a) (hR : ∀ x ∈ a.entries, R x x) : SameContent R a a := by
  cases ha with
  | null => exact .null
  | bool v => exact .bool v
  | number _ => exact .number rfl
  | string t => exact .string t
  | array _ =>
    refine .array rfl fun i x y hx hy => ?_
    rw [hx] at hy
    obtain rfl := Option.some.inj hy
    exact hR x (List.mem_of_getElem? hx)
  | object hkeys _ =>
    refine .object (fun _ => Iff.rfl) fun key x y hx hy => ?_
    have hsame : (key, x) = (key, y) := List.inj_on_of_nodup_map hkeys hx hy rfl
    obtain rfl := (Prod.mk.inj hsame).2
    exact hR x (mem_entries_object hx)

theorem symm (h : SameContent R a b) (hR : ∀ x ∈ a.entries, ∀ y ∈ b.entries, R x y → S y x) :
    SameContent S b a := by
  cases h with
  | null => exact .null
  | bool v => exact .bool v
  | number hvalue => exact .number hvalue.symm
  | string t => exact .string t
  | array hlength hitems =>
    refine .array hlength.symm fun i y x hy hx => ?_
    exact hR x (List.mem_of_getElem? hx) y (List.mem_of_getElem? hy) (hitems i x y hx hy)
  | object hkeys hvalues =>
    refine .object (fun key => (hkeys key).symm) fun key y x hy hx => ?_
    exact hR x (mem_entries_object hx) y (mem_entries_object hy) (hvalues key x y hx hy)

theorem trans (hab : SameContent R a b) (hbc : SameContent R b c)
    (hR : ∀ x ∈ a.entries, ∀ y ∈ b.entries, ∀ z ∈ c.entries, R x y → R y z → S x z) :
    SameContent S a c := by
  cases hab with
  | null => cases hbc; exact .null
  | bool v => cases hbc; exact .bool v
  | number hvalue =>
    cases hbc with
    | number hvalue' => exact .number (hvalue.trans hvalue')
  | string t => cases hbc; exact .string t
  | @array as bs hlength hitems =>
    cases hbc with
    | array hlength' hitems' =>
      refine .array (hlength.trans hlength') fun i x z hx hz => ?_
      have hi : i < bs.length := hlength ▸ (List.getElem?_eq_some_iff.mp hx).1
      have hy : bs[i]? = some bs[i] := List.getElem?_eq_getElem hi
      exact hR x (List.mem_of_getElem? hx) bs[i] (List.mem_of_getElem? hy) z
        (List.mem_of_getElem? hz) (hitems i x _ hx hy) (hitems' i _ z hy hz)
  | object hkeys hvalues =>
    cases hbc with
    | object hkeys' hvalues' =>
      refine .object (fun key => (hkeys key).trans (hkeys' key)) fun key x z hx hz => ?_
      have hkey := (hkeys key).mp (List.mem_map.mpr ⟨(key, x), hx, rfl⟩)
      obtain ⟨⟨_, y⟩, hy, rfl⟩ := List.mem_map.mp hkey
      exact hR x (mem_entries_object hx) y (mem_entries_object hy) z (mem_entries_object hz)
        (hvalues _ x y hx hy) (hvalues' _ y z hy hz)

end SameContent

/-! ### Arrays -/

theorem itemsAgree_iff {as bs : List Json} :
    itemsAgree as bs = true ↔
      as.length = bs.length ∧
        ∀ (i : Nat) (a b : Json), as[i]? = some a → bs[i]? = some b → a.agrees b = true := by
  induction as generalizing bs with
  | nil => cases bs <;> simp [itemsAgree]
  | cons a as ih =>
    cases bs with
    | nil => simp [itemsAgree]
    | cons b bs =>
      rw [itemsAgree, Bool.and_eq_true, ih, List.length_cons, List.length_cons, Nat.succ_inj]
      constructor
      · rintro ⟨hhead, hlength, htail⟩
        refine ⟨hlength, fun i x y hx hy => ?_⟩
        cases i with
        | zero =>
          obtain rfl := Option.some.inj hx
          obtain rfl := Option.some.inj hy
          exact hhead
        | succ i => exact htail i x y hx hy
      · rintro ⟨hlength, hitems⟩
        exact ⟨hitems 0 a b rfl rfl, hlength, fun i => hitems (i + 1)⟩

/-! ### Objects -/

theorem member?_eq_some_iff {key : String} {members : List (String × Json)}
    (hkeys : (members.map (·.1)).Nodup) : member? key members = some b ↔ (key, b) ∈ members := by
  induction members with
  | nil => simp [member?]
  | cons first rest ih =>
    obtain ⟨k, v⟩ := first
    rw [List.map_cons, List.nodup_cons] at hkeys
    rw [member?, List.mem_cons]
    by_cases hk : k = key
    · have hrest : (key, b) ∉ rest := by
        intro hmem
        apply hkeys.1
        rw [hk]
        exact List.mem_map.mpr ⟨(key, b), hmem, rfl⟩
      rw [if_pos hk, hk]
      simp [hrest, eq_comm]
    · rw [if_neg hk, ih hkeys.2]
      simp [Ne.symm hk]

theorem membersAgree_iff {as bs : List (String × Json)} :
    membersAgree as bs = true ↔
      ∀ m ∈ as, ∃ b, member? m.1 bs = some b ∧ m.2.agrees b = true := by
  induction as with
  | nil => simp [membersAgree]
  | cons first rest ih =>
    obtain ⟨key, a⟩ := first
    rw [membersAgree, Bool.and_eq_true, ih, List.forall_mem_cons]
    cases member? key bs <;> simp

theorem mem_iff_of_subset {keys others : List String} (hkeys : keys.Nodup)
    (hlength : keys.length = others.length) (hsubset : keys ⊆ others) (key : String) :
    key ∈ keys ↔ key ∈ others := by
  have hperm : keys.Perm others :=
    (List.subperm_of_subset hkeys hsubset).perm_of_length_le hlength.ge
  exact hperm.mem_iff

theorem agrees_object_iff {as bs : List (String × Json)} (has : (as.map (·.1)).Nodup)
    (hbs : (bs.map (·.1)).Nodup) :
    (object as).agrees (object bs) = true ↔
      (∀ key, key ∈ as.map (·.1) ↔ key ∈ bs.map (·.1)) ∧
        ∀ key a b, (key, a) ∈ as → (key, b) ∈ bs → a.agrees b = true := by
  rw [agrees, Bool.and_eq_true, beq_iff_eq, membersAgree_iff]
  constructor
  · rintro ⟨hlength, hmembers⟩
    have hfound : ∀ key a, (key, a) ∈ as → ∃ b, (key, b) ∈ bs ∧ a.agrees b = true := by
      intro key a ha
      obtain ⟨b, hb, hagrees⟩ := hmembers (key, a) ha
      exact ⟨b, (member?_eq_some_iff hbs).mp hb, hagrees⟩
    constructor
    · apply mem_iff_of_subset has
      · rwa [List.length_map, List.length_map]
      · intro key hkey
        obtain ⟨⟨_, a⟩, ha, rfl⟩ := List.mem_map.mp hkey
        obtain ⟨b, hb, _⟩ := hfound _ a ha
        exact List.mem_map.mpr ⟨(_, b), hb, rfl⟩
    · intro key a b ha hb
      obtain ⟨b', hb', hagrees⟩ := hfound key a ha
      have hsame : (key, b') = (key, b) := List.inj_on_of_nodup_map hbs hb' hb rfl
      rwa [← (Prod.mk.inj hsame).2]
  · rintro ⟨hkeys, hvalues⟩
    have hperm : (as.map (·.1)).Perm (bs.map (·.1)) :=
      (List.perm_ext_iff_of_nodup has hbs).mpr hkeys
    constructor
    · simpa using hperm.length_eq
    · rintro ⟨key, a⟩ ha
      have hkey := (hkeys key).mp (List.mem_map.mpr ⟨(key, a), ha, rfl⟩)
      obtain ⟨⟨_, b⟩, hb, rfl⟩ := List.mem_map.mp hkey
      exact ⟨b, (member?_eq_some_iff hbs).mpr hb, hvalues _ a b ha hb⟩

/-! ### The laws -/

theorem agrees_number_iff {m n : JsonNumber} :
    (number m).agrees (number n) = true ↔ m.toBinary64.value = n.toBinary64.value := by
  rw [agrees, JsonNumber.agrees, beq_iff_eq, Binary64.comparisonKey_eq_iff]

theorem agrees_iff_sameContent (ha : Proper a) (hb : Proper b) :
    a.agrees b = true ↔ SameContent (fun x y => x.agrees y = true) a b := by
  constructor
  · intro h
    cases ha with
    | null =>
      cases hb with
      | null => exact .null
      | _ => cases h
    | bool v =>
      cases hb with
      | bool w =>
        rw [agrees, beq_iff_eq] at h
        exact h ▸ .bool v
      | _ => cases h
    | number _ =>
      cases hb with
      | number _ => exact .number (agrees_number_iff.mp h)
      | _ => cases h
    | string t =>
      cases hb with
      | string u =>
        rw [agrees, beq_iff_eq] at h
        exact h ▸ .string t
      | _ => cases h
    | array _ =>
      cases hb with
      | array _ =>
        obtain ⟨hlength, hitems⟩ := itemsAgree_iff.mp h
        exact .array hlength hitems
      | _ => cases h
    | object has _ =>
      cases hb with
      | object hbs _ =>
        obtain ⟨hkeys, hvalues⟩ := (agrees_object_iff has hbs).mp h
        exact .object hkeys hvalues
      | _ => cases h
  · intro h
    cases h with
    | null => rfl
    | bool v => exact beq_self_eq_true v
    | number hvalue => exact agrees_number_iff.mpr hvalue
    | string t => exact beq_self_eq_true t
    | array hlength hitems => exact itemsAgree_iff.mpr ⟨hlength, hitems⟩
    | object hkeys hvalues =>
      cases ha with
      | object has _ =>
        cases hb with
        | object hbs _ => exact (agrees_object_iff has hbs).mpr ⟨hkeys, hvalues⟩

theorem agrees_refl (ha : Proper a) : a.agrees a = true := by
  induction ha using Proper.induct with
  | step a ha ih => exact (agrees_iff_sameContent ha ha).mpr (.refl ha ih)

theorem agrees_symm (ha : Proper a) (hb : Proper b) (h : a.agrees b = true) :
    b.agrees a = true := by
  induction ha using Proper.induct generalizing b with
  | step a ha ih =>
    have hcontent := (agrees_iff_sameContent ha hb).mp h
    apply (agrees_iff_sameContent hb ha).mpr
    exact hcontent.symm fun x hx y hy => ih x hx (hb.of_mem_entries hy)

theorem agrees_trans (ha : Proper a) (hb : Proper b) (hc : Proper c) (hab : a.agrees b = true)
    (hbc : b.agrees c = true) : a.agrees c = true := by
  induction ha using Proper.induct generalizing b c with
  | step a ha ih =>
    have hcontent := (agrees_iff_sameContent ha hb).mp hab
    have hcontent' := (agrees_iff_sameContent hb hc).mp hbc
    apply (agrees_iff_sameContent ha hc).mpr
    exact hcontent.trans hcontent' fun x hx y hy z hz =>
      ih x hx (hb.of_mem_entries hy) (hc.of_mem_entries hz)

/-- Equality is an equivalence, and equal are exactly the values of one kind with the same content up
to equality. -/
theorem agrees_equivalence (ha : Proper a) (hb : Proper b) (hc : Proper c) :
    a.agrees a = true ∧ a.agrees b = b.agrees a ∧
      (a.agrees b = true → b.agrees c = true → a.agrees c = true) ∧
      (a.agrees b = true ↔ SameContent (fun x y => x.agrees y = true) a b) := by
  have hsymm : a.agrees b = true ↔ b.agrees a = true := ⟨agrees_symm ha hb, agrees_symm hb ha⟩
  exact ⟨agrees_refl ha, Bool.eq_iff_iff.mpr hsymm, agrees_trans ha hb hc,
    agrees_iff_sameContent ha hb⟩

theorem agrees_equivalence_respelled :
    let integer (i : Int) : Json := .number (.int i)
    let double (bits : UInt64) : Json := .number (.double ⟨bits⟩)
    let a : Json := .object [("x", integer 1), ("y", .array [integer 0, .null])]
    let b : Json := .object [("y", .array [double 0x8000000000000000, .null]),
      ("x", double 0x3ff0000000000000)]
    let c : Json := .object [("x", double 0x3ff0000000000000), ("y", .array [double 0, .null])]
    Proper a ∧ Proper b ∧ Proper c ∧ a.agrees b = true ∧ b.agrees c = true ∧ a.agrees c = true ∧
      SameContent (fun x y => x.agrees y = true) b a := by
  intro integer double a b c
  have hzero : ∀ n : JsonNumber, n.toBinary64.isFinite = true →
      Proper (.array [.number n, .null]) := by
    intro n hn
    refine .array fun x hx => ?_
    rcases List.mem_pair.mp hx with rfl | rfl
    · exact .number hn
    · exact .null
  have hpair : ∀ {k l : String} {x y : Json}, k ≠ l → Proper x → Proper y →
      Proper (.object [(k, x), (l, y)]) := by
    intro k l x y hkeys hx hy
    refine .object (by simpa using hkeys) fun m hm => ?_
    rcases List.mem_pair.mp hm with rfl | rfl
    · exact hx
    · exact hy
  have ha : Proper a := hpair (by decide) (.number (by decide +kernel)) (hzero _ (by decide +kernel))
  have hb : Proper b := hpair (by decide) (hzero _ (by decide +kernel)) (.number (by decide +kernel))
  have hc : Proper c := hpair (by decide) (.number (by decide +kernel)) (hzero _ (by decide +kernel))
  have hab : a.agrees b = true := by decide +kernel
  have hbc : b.agrees c = true := by decide +kernel
  obtain ⟨_, hsymm, htrans, _⟩ := agrees_equivalence ha hb hc
  obtain ⟨_, _, _, hcontent⟩ := agrees_equivalence hb ha hc
  exact ⟨ha, hb, hc, hab, hbc, htrans hab hbc, hcontent.mp (hsymm ▸ hab)⟩

end ComponentStyles.Json
