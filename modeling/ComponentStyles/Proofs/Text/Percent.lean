import ComponentStyles.Proofs.Text.Split
import ComponentStyles.Text.Percent
import Mathlib.Tactic.IntervalCases

/-!
# Writing texts in a query

Every text can be the name or the value of a parameter: with all its bytes escaped it has no
separator in it, and is read back as it was (`decodeComponent_escape`). So every list of parameters
is that of a query (`parameters_queryOf`).

Proof. The bytes of a text read as that text, since the reader ends each character between two
characters again (`ofBytesFrom_utf8EncodeChar`), and an escape reads as its byte.
-/

namespace ComponentStyles.Text

/-! ### Bytes -/

theorem ofBytesFrom_cons (pending : Option Pending) (b : UInt8) (rest : List UInt8) :
    ofBytesFrom pending (b :: rest)
      = (nextByte pending b.toNat).1 ++ ofBytesFrom (nextByte pending b.toNat).2 rest := by
  cases pending <;> rfl

theorem ofBytesFrom_inside {p : Pending} {d : Nat} (hd : d < 64) (hlow : p.low ≤ d + 128)
    (hhigh : d + 128 ≤ p.high) (hmissing : 1 < p.missing) (rest : List UInt8) :
    ofBytesFrom (some p) (UInt8.ofNat (d + 128) :: rest)
      = ofBytesFrom (some { bits := p.bits * 64 + d, missing := p.missing - 1 }) rest := by
  have hbyte : (UInt8.ofNat (d + 128)).toNat = d + 128 := by
    rw [UInt8.toNat_ofNat']
    omega
  rw [ofBytesFrom_cons, hbyte, nextByte]
  dsimp only
  rw [if_pos ⟨hlow, hhigh⟩, if_neg (by omega), Nat.add_sub_cancel, List.nil_append]

theorem ofBytesFrom_last {p : Pending} {d : Nat} (hd : d < 64) (hlow : p.low ≤ d + 128)
    (hhigh : d + 128 ≤ p.high) (hmissing : p.missing = 1) (rest : List UInt8) :
    ofBytesFrom (some p) (UInt8.ofNat (d + 128) :: rest)
      = Char.ofNat (p.bits * 64 + d) :: ofBytesFrom none rest := by
  have hbyte : (UInt8.ofNat (d + 128)).toNat = d + 128 := by
    rw [UInt8.toNat_ofNat']
    omega
  rw [ofBytesFrom_cons, hbyte, nextByte]
  dsimp only
  rw [if_pos ⟨hlow, hhigh⟩, if_pos (by omega), Nat.add_sub_cancel, List.singleton_append]

theorem ofBytesFrom_first {b : Nat} {p : Pending} (hlow : 128 ≤ b) (hhigh : b < 256)
    (hp : Pending.start? b = some p) (rest : List UInt8) :
    ofBytesFrom none (UInt8.ofNat b :: rest) = ofBytesFrom (some p) rest := by
  have hbyte : (UInt8.ofNat b).toNat = b := by
    rw [UInt8.toNat_ofNat']
    omega
  rw [ofBytesFrom_cons, hbyte, nextByte, firstByte, if_neg (by omega), hp]
  rfl

theorem start?_two {n : Nat} (hlow : 2 ≤ n) (hhigh : n < 32) :
    Pending.start? (n + 192) = some { bits := n, missing := 1 } := by
  rw [Pending.start?, if_pos (by omega), Nat.add_sub_cancel]

/-- The second of three bytes is bounded so that no shorter form and no surrogate is read. -/
theorem start?_three {n : Nat} (h : n < 16) :
    Pending.start? (n + 224)
      = some { bits := n, missing := 2, low := if n = 0 then 0xA0 else 0x80,
               high := if n = 13 then 0x9F else 0xBF } := by
  interval_cases n <;> rfl

/-- The second of four bytes is bounded so that no shorter form and no value too large is read. -/
theorem start?_four {n : Nat} (h : n < 5) :
    Pending.start? (n + 240)
      = some { bits := n, missing := 3, low := if n = 0 then 0x90 else 0x80,
               high := if n = 4 then 0x8F else 0xBF } := by
  interval_cases n <;> rfl

theorem ofBytesFrom_utf8EncodeChar (c : Char) (rest : List UInt8) :
    ofBytesFrom none (String.utf8EncodeChar c ++ rest) = c :: ofBytesFrom none rest := by
  have hvalid : c.val.toNat < 0xD800 ∨ 0xDFFF < c.val.toNat ∧ c.val.toNat < 0x110000 := c.valid
  have hchar : Char.ofNat c.val.toNat = c := Char.ofNat_toNat c
  rw [String.utf8EncodeChar]
  generalize c.val.toNat = v at hvalid hchar
  split
  · -- one byte
    have hbyte : (UInt8.ofNat v).toNat = v := by
      rw [UInt8.toNat_ofNat']
      omega
    rw [List.singleton_append, ofBytesFrom_cons, hbyte, nextByte, firstByte, if_pos (by omega),
      hchar]
    rfl
  split
  · -- two bytes
    rw [List.cons_append, List.singleton_append,
      ofBytesFrom_first (by omega) (by omega) (start?_two (by omega) (by omega)),
      ofBytesFrom_last (by omega) (by dsimp only; omega) (by dsimp only; omega) rfl]
    dsimp only
    rw [← hchar]
    congr 2
    omega
  split
  · -- three bytes
    have hvalue : (v / 4096 % 16 * 64 + v / 64 % 64) * 64 + v % 64 = v := by omega
    rw [List.cons_append, List.cons_append, List.singleton_append,
      ofBytesFrom_first (by omega) (by omega) (start?_three (by omega)),
      ofBytesFrom_inside (by omega) (by dsimp only; split <;> omega)
        (by dsimp only; split <;> omega) (by dsimp only; omega),
      ofBytesFrom_last (by omega) (by dsimp only; omega) (by dsimp only; omega) rfl]
    dsimp only
    rw [hvalue, hchar]
  · -- four bytes
    have hvalue : ((v / 262144 % 8 * 64 + v / 4096 % 64) * 64 + v / 64 % 64) * 64 + v % 64 = v := by
      omega
    rw [List.cons_append, List.cons_append, List.cons_append, List.singleton_append,
      ofBytesFrom_first (by omega) (by omega) (start?_four (by omega)),
      ofBytesFrom_inside (by omega) (by dsimp only; split <;> omega)
        (by dsimp only; split <;> omega) (by dsimp only; omega),
      ofBytesFrom_inside (by omega) (by dsimp only; omega) (by dsimp only; omega)
        (by dsimp only; omega),
      ofBytesFrom_last (by omega) (by dsimp only; omega) (by dsimp only; omega) rfl]
    dsimp only
    rw [hvalue, hchar]

theorem ofBytes_toBytes (t : Text) : ofBytes (toBytes t) = t := by
  rw [ofBytes]
  induction t with
  | nil => rfl
  | cons c t ih =>
    rw [toBytes, List.flatMap_cons, ofBytesFrom_utf8EncodeChar]
    exact congrArg (c :: ·) ih

/-! ### Escapes -/

def hexDigit (n : Nat) : Char :=
  Char.ofNat (if n < 10 then 48 + n else 87 + n)

def escapeByte (b : UInt8) : Text :=
  ['%', hexDigit (b.toNat / 16), hexDigit (b.toNat % 16)]

def escape (t : Text) : Text :=
  (toBytes t).flatMap escapeByte

theorem hexDigit_spec {n : Nat} (h : n < 16) :
    String.utf8EncodeChar (hexDigit n) = [UInt8.ofNat (hexDigit n).toNat] ∧
      hexByte? (UInt8.ofNat (hexDigit n).toNat) = some (UInt8.ofNat n) ∧
      hexDigit n ∉ ['+', '&', '='] := by
  interval_cases n <;> decide

theorem div_lt_sixteen (b : UInt8) : b.toNat / 16 < 16 := by
  have := b.toNat_lt
  omega

theorem mod_lt_sixteen (b : UInt8) : b.toNat % 16 < 16 :=
  Nat.mod_lt _ (by decide)

theorem notMem_escape {c : Char} (hc : c ∈ ['+', '&', '=']) (t : Text) : c ∉ escape t := by
  intro h
  obtain ⟨b, _, hb⟩ := List.mem_flatMap.mp h
  obtain ⟨_, _, hhigh⟩ := hexDigit_spec (div_lt_sixteen b)
  obtain ⟨_, _, hlow⟩ := hexDigit_spec (mod_lt_sixteen b)
  rw [escapeByte, List.mem_cons, List.mem_cons, List.mem_singleton] at hb
  rcases hb with rfl | rfl | rfl
  · exact absurd hc (by decide)
  · exact hhigh hc
  · exact hlow hc

theorem unescapeBytes_escapeByte (b : UInt8) (rest : List UInt8) :
    unescapeBytes (toBytes (escapeByte b) ++ rest) = b :: unescapeBytes rest := by
  obtain ⟨hhigh, hhigh', _⟩ := hexDigit_spec (div_lt_sixteen b)
  obtain ⟨hlow, hlow', _⟩ := hexDigit_spec (mod_lt_sixteen b)
  have hbytes : toBytes (escapeByte b) ++ rest
      = 37 :: UInt8.ofNat (hexDigit (b.toNat / 16)).toNat ::
          UInt8.ofNat (hexDigit (b.toNat % 16)).toNat :: rest := by
    rw [escapeByte, toBytes, List.flatMap_cons, List.flatMap_cons, List.flatMap_singleton, hhigh,
      hlow]
    rfl
  have hvalue : UInt8.ofNat (b.toNat / 16) * 16 + UInt8.ofNat (b.toNat % 16) = b := by
    apply UInt8.toNat_inj.mp
    have hb := b.toNat_lt
    have hsixteen : (16 : UInt8).toNat = 16 := rfl
    rw [UInt8.toNat_add, UInt8.toNat_mul, UInt8.toNat_ofNat', UInt8.toNat_ofNat', hsixteen]
    omega
  rw [hbytes, unescapeBytes, hhigh', hlow']
  dsimp only
  rw [hvalue]

theorem decodeComponent_escape (t : Text) : decodeComponent (escape t) = t := by
  have hplus : (escape t).map (fun c => if c = '+' then ' ' else c) = escape t := by
    refine (List.map_congr_left fun c hc => if_neg ?_).trans (List.map_id _)
    rintro rfl
    exact notMem_escape (by decide) t hc
  have hbytes : ∀ bs : List UInt8, unescapeBytes (toBytes (bs.flatMap escapeByte)) = bs := by
    intro bs
    induction bs with
    | nil => rfl
    | cons b bs ih =>
      rw [List.flatMap_cons, toBytes, List.flatMap_append]
      exact (unescapeBytes_escapeByte b _).trans (congrArg (b :: ·) ih)
  rw [decodeComponent, hplus, escape, hbytes, ofBytes_toBytes]

/-! ### Parameters -/

def segmentOf (p : Text × Text) : Text :=
  escape p.1 ++ '=' :: escape p.2

def queryOf (params : List (Text × Text)) : Text :=
  join ['&'] (params.map segmentOf)

theorem parameter_segmentOf (p : Text × Text) : parameter (segmentOf p) = p := by
  rw [parameter, segmentOf, splitFirst?_append_cons (notMem_escape (by decide) p.1)]
  dsimp only
  rw [decodeComponent_escape, decodeComponent_escape]

theorem notMem_segmentOf (p : Text × Text) : '&' ∉ segmentOf p := by
  rw [segmentOf, List.mem_append, List.mem_cons, not_or, not_or]
  exact ⟨notMem_escape (by decide) p.1, by decide, notMem_escape (by decide) p.2⟩

theorem parameters_queryOf (params : List (Text × Text)) :
    (queryOf params).parameters = params := by
  by_cases hne : params = []
  · rw [hne]
    rfl
  have hsplit : (queryOf params).splitOnChar '&' = params.map segmentOf := by
    refine splitOnChar_join (fun segment hsegment => ?_) (by simpa using hne)
    obtain ⟨p, _, rfl⟩ := List.mem_map.mp hsegment
    exact notMem_segmentOf p
  have hall : ∀ segment ∈ params.map segmentOf, decide (segment ≠ []) = true := by
    intro segment hsegment
    obtain ⟨p, _, rfl⟩ := List.mem_map.mp hsegment
    exact decide_eq_true (List.append_ne_nil_of_right_ne_nil _ (List.cons_ne_nil _ _))
  rw [parameters, hsplit, List.filter_eq_self.mpr hall, List.map_map]
  exact (List.map_congr_left fun p _ => parameter_segmentOf p).trans (List.map_id _)

end ComponentStyles.Text
