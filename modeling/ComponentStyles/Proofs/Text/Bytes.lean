import ComponentStyles.Text.Utf8
import Mathlib.Tactic.ByContra

/-!
# Searching the bytes of a text

A search for ASCII characters may look at bytes instead. A byte decides for its whole character
(`Tells`): a character of several bytes has no byte of ASCII in it (`le_toNat_of_mem`), and one of ASCII
is a single byte. So a byte that passes such a test is a character of its own
(`exists_of_getElem?_toBytes`).
-/

namespace ComponentStyles.Text

/-! ### The bytes of parts -/

@[simp] theorem toBytes_nil : toBytes [] = [] := rfl

@[simp] theorem toBytes_cons (c : Char) (t : Text) :
    toBytes (c :: t) = String.utf8EncodeChar c ++ toBytes t :=
  List.flatMap_cons

@[simp] theorem toBytes_append (s t : Text) : toBytes (s ++ t) = toBytes s ++ toBytes t :=
  List.flatMap_append

@[simp] theorem length_toBytes (t : Text) : (toBytes t).length = byteLength t := by
  induction t with
  | nil => rfl
  | cons c t ih => rw [toBytes_cons, List.length_append, String.length_utf8EncodeChar, ih, byteLength_cons]

/-! ### Bytes that tell characters -/

theorem utf8EncodeChar_of_lt {c : Char} (h : c.toNat < 128) :
    String.utf8EncodeChar c = [UInt8.ofNat c.toNat] := by
  have h' : c.val.toNat ≤ 127 := Nat.le_of_lt_succ h
  rw [String.utf8EncodeChar]
  exact if_pos h'

theorem utf8Size_of_lt {c : Char} (h : c.toNat < 128) : c.utf8Size = 1 := by
  rw [← String.length_utf8EncodeChar, utf8EncodeChar_of_lt h, List.length_singleton]

theorem toNat_lt_of_isAlphanum {c : Char} (h : c.isAlphanum = true) : c.toNat < 128 := by
  change (decide ('A'.val ≤ c.val ∧ c.val ≤ 'Z'.val) ||
    (decide ('a'.val ≤ c.val) && decide (c.val ≤ 'z'.val)) ||
    (decide ('0'.val ≤ c.val) && decide (c.val ≤ '9'.val))) = true at h
  simp only [Bool.or_eq_true, Bool.and_eq_true, decide_eq_true_eq, UInt32.le_iff_toNat_le] at h
  change c.val.toNat < 128
  have hupper : 'Z'.val.toNat = 90 := rfl
  have hlower : 'z'.val.toNat = 122 := rfl
  have hdigit : '9'.val.toNat = 57 := rfl
  omega

theorem le_toNat_of_mem {c : Char} (hc : 128 ≤ c.toNat) {b : UInt8}
    (hb : b ∈ String.utf8EncodeChar c) : 128 ≤ b.toNat := by
  have hvalid : c.val.toNat < 0x110000 := by
    rcases c.valid with h | h
    · exact Nat.lt_trans h (by decide)
    · exact h.2
  change 128 ≤ c.val.toNat at hc
  rw [String.utf8EncodeChar] at hb
  generalize c.val.toNat = v at hc hb hvalid
  split at hb
  · omega
  split at hb
  · simp only [List.mem_cons, List.not_mem_nil, or_false] at hb
    rcases hb with rfl | rfl <;> rw [UInt8.toNat_ofNat'] <;> omega
  split at hb
  · simp only [List.mem_cons, List.not_mem_nil, or_false] at hb
    rcases hb with rfl | rfl | rfl <;> rw [UInt8.toNat_ofNat'] <;> omega
  · simp only [List.mem_cons, List.not_mem_nil, or_false] at hb
    rcases hb with rfl | rfl | rfl | rfl <;> rw [UInt8.toNat_ofNat'] <;> omega

theorem count_toBytes {c : Char} (hc : c.toNat < 128) (t : Text) :
    (toBytes t).count (UInt8.ofNat c.toNat) = t.count c := by
  induction t with
  | nil => rfl
  | cons d t ih =>
    rw [toBytes_cons, List.count_append, ih, List.count_cons, Nat.add_comm]
    congr 1
    by_cases hd : d.toNat < 128
    · have hbyte : UInt8.ofNat d.toNat = UInt8.ofNat c.toNat ↔ d = c := by
        rw [← UInt8.toNat_inj, UInt8.toNat_ofNat', UInt8.toNat_ofNat', Nat.mod_eq_of_lt (by omega),
          Nat.mod_eq_of_lt (by omega), Char.toNat_inj]
      rw [utf8EncodeChar_of_lt hd, List.count_singleton]
      simp only [beq_iff_eq, hbyte]
    · have hother : d ≠ c := by
        rintro rfl
        exact hd hc
      rw [if_neg (by simpa using hother), List.count_eq_zero]
      intro hmem
      have hlarge := le_toNat_of_mem (Nat.le_of_not_lt hd) hmem
      rw [UInt8.toNat_ofNat', Nat.mod_eq_of_lt (by omega)] at hlarge
      omega

/-- Each byte of a character passes the one test if the character passes the other. -/
def Tells (byte : UInt8 → Bool) (char : Char → Bool) : Prop :=
  ∀ c, ∀ b ∈ String.utf8EncodeChar c, byte b = char c

theorem tells_of_ascii {byte : UInt8 → Bool} {char : Char → Bool}
    (hbyte : ∀ b, byte b = true → b.toNat < 128) (hchar : ∀ c, char c = true → c.toNat < 128)
    (h : ∀ c, c.toNat < 128 → byte (UInt8.ofNat c.toNat) = char c) : Tells byte char := by
  intro c b hb
  by_cases hc : c.toNat < 128
  · rw [utf8EncodeChar_of_lt hc, List.mem_singleton] at hb
    rw [hb, h c hc]
  · have hlarge := le_toNat_of_mem (Nat.le_of_not_lt hc) hb
    rw [Bool.eq_iff_iff]
    constructor
    · intro hpass
      exact absurd (hbyte b hpass) (Nat.not_lt.mpr hlarge)
    · intro hpass
      exact absurd (hchar c hpass) hc

/-! ### The character at a byte -/

theorem exists_char_at {t : Text} {n : Nat} (h : n < byteLength t) :
    ∃ front c rest k, t = front ++ c :: rest ∧ n = byteLength front + k ∧ k < c.utf8Size := by
  induction t generalizing n with
  | nil => exact absurd h (Nat.not_lt_zero n)
  | cons c t ih =>
    by_cases hc : n < c.utf8Size
    · exact ⟨[], c, t, n, rfl, by rw [byteLength_nil, Nat.zero_add], hc⟩
    · rw [byteLength_cons] at h
      obtain ⟨front, d, rest, k, rfl, hn, hk⟩ := ih (n := n - c.utf8Size) (by omega)
      refine ⟨c :: front, d, rest, k, rfl, ?_, hk⟩
      rw [byteLength_cons]
      omega

theorem getElem?_toBytes_append (front : Text) {part : Text} (rest : Text) {k : Nat}
    (hk : k < byteLength part) :
    (toBytes (front ++ (part ++ rest)))[byteLength front + k]? = (toBytes part)[k]? := by
  rw [← length_toBytes] at hk
  rw [toBytes_append, toBytes_append, ← length_toBytes,
    List.getElem?_append_right (Nat.le_add_right _ _), Nat.add_sub_cancel_left,
    List.getElem?_append_left hk]

theorem getElem?_toBytes_append_cons (front rest : Text) {c : Char} {k : Nat} (hk : k < c.utf8Size) :
    (toBytes (front ++ c :: rest))[byteLength front + k]? = (String.utf8EncodeChar c)[k]? := by
  have hk' : k < byteLength [c] := hk
  have h := getElem?_toBytes_append front rest hk'
  rwa [toBytes_cons, toBytes_nil, List.append_nil] at h

theorem Tells.exists_getElem? {byte : UInt8 → Bool} {char : Char → Bool} (h : Tells byte char)
    {part : Text} (hpart : ∀ c ∈ part, char c = true) (front rest : Text) {k : Nat}
    (hk : k < byteLength part) :
    ∃ b, (toBytes (front ++ (part ++ rest)))[byteLength front + k]? = some b ∧ byte b = true := by
  rw [getElem?_toBytes_append front rest hk]
  rw [← length_toBytes] at hk
  refine ⟨_, List.getElem?_eq_getElem hk, ?_⟩
  obtain ⟨c, hc, hb⟩ := List.mem_flatMap.mp (List.getElem_mem hk)
  rw [h c _ hb, hpart c hc]

theorem getElem?_toBytes_eq_some_iff {c : Char} (hc : c.toNat < 128) {t : Text} {n : Nat} :
    (toBytes t)[n]? = some (UInt8.ofNat c.toNat) ↔
      ∃ front rest, t = front ++ c :: rest ∧ byteLength front = n := by
  constructor
  · intro h
    have hn : n < byteLength t := by
      rw [← length_toBytes]
      exact (List.getElem?_eq_some_iff.mp h).1
    obtain ⟨front, d, rest, k, rfl, rfl, hk⟩ := exists_char_at hn
    rw [getElem?_toBytes_append_cons front rest hk] at h
    have hd : d.toNat < 128 := by
      by_contra hlarge
      have hbyte := le_toNat_of_mem (Nat.le_of_not_lt hlarge) (List.mem_of_getElem? h)
      rw [UInt8.toNat_ofNat'] at hbyte
      omega
    rw [utf8EncodeChar_of_lt hd] at h
    rw [utf8Size_of_lt hd] at hk
    obtain rfl : k = 0 := by omega
    have hbyte := congrArg UInt8.toNat (Option.some.inj h)
    rw [UInt8.toNat_ofNat', UInt8.toNat_ofNat', Nat.mod_eq_of_lt (by omega),
      Nat.mod_eq_of_lt (by omega)] at hbyte
    exact ⟨front, rest, by rw [Char.toNat_inj.mp hbyte], rfl⟩
  · rintro ⟨front, rest, rfl, rfl⟩
    have h := getElem?_toBytes_append_cons front rest c.utf8Size_pos
    rwa [utf8EncodeChar_of_lt hc] at h

end ComponentStyles.Text
