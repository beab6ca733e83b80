/-!
# Binary64 numbers

A number of sixty-four bits, held as its bits. Every operation is exact arithmetic on natural
numbers followed by one rounding, `Binary64.roundRatio`, to the nearest number, ties to even.
-/

namespace ComponentStyles

/-- A binary64 number: sign, eleven bits of exponent, fifty-two bits of fraction. -/
structure Binary64 where
  bits : UInt64
  deriving DecidableEq, Repr

namespace Binary64

/-- One unit of the exponent field; also the leading bit of a normal significand. -/
def unit : Nat := 0x10000000000000

def infinityBits : Nat := 2047 * unit

def signBit : Nat := 0x8000000000000000

/-- The number with the given magnitude bits. -/
def ofMagnitude (negative : Bool) (magnitude : Nat) : Binary64 :=
  ⟨UInt64.ofNat (if negative then signBit + magnitude else magnitude)⟩

/-- The quotient rounded to the nearest integer, a tie to the even one. -/
def roundDiv (num den : Nat) : Nat :=
  let quotient := num / den
  let twice := 2 * (num % den)
  if twice < den then quotient
  else if den < twice then quotient + 1
  else quotient + quotient % 2

/-- The magnitude bits of the number nearest to a quotient of two positive integers.

Numbers with exponent `e` are the multiples of `2 ^ (e - 1074)`. The exponent is the least for
which the quotient stays below `2 ^ 53` multiples, so the rounded multiple, added to `e` units of
the exponent field, is the bit pattern; a carry out of the significand moves the exponent by
itself. -/
def roundRatio (num den : Nat) : Nat :=
  if num = 0 then 0
  else
    -- The quotient lies strictly between 2 ^ (top - 1) and 2 ^ (top + 1).
    let top : Int := (num.log2 : Int) - den.log2
    let reaches (k : Int) : Bool :=
      if 0 ≤ k then den * Nat.pow 2 k.toNat ≤ num else den ≤ num * Nat.pow 2 (-k).toNat
    let lead := if reaches top then top else top - 1
    let e := (lead + 1022).toNat
    let scaled :=
      if e ≤ 1074 then roundDiv (num * Nat.pow 2 (1074 - e)) den
      else roundDiv num (den * Nat.pow 2 (e - 1074))
    min (e * unit + scaled) infinityBits

def ofRatio (negative : Bool) (num den : Nat) : Binary64 :=
  ofMagnitude negative (roundRatio num den)

/-- The number nearest to a natural number. -/
def ofNat (n : Nat) : Binary64 :=
  ofRatio false n 1

def ofInt (i : Int) : Binary64 :=
  ofRatio (i < 0) i.natAbs 1

/-- The number nearest to a decimal number `digits * 10 ^ exponent`. Powers far beyond the finite
numbers are not worked out. -/
def ofDecimal (negative : Bool) (digits : Nat) (exponent : Int) : Binary64 :=
  if digits = 0 ∨ exponent < -400 - digits.log2 then ofMagnitude negative 0
  else if 400 < exponent then ofMagnitude negative infinityBits
  else if 0 ≤ exponent then ofRatio negative (digits * Nat.pow 10 exponent.toNat) 1
  else ofRatio negative digits (Nat.pow 10 (-exponent).toNat)

variable (x : Binary64)

def isNegative : Bool :=
  signBit ≤ x.bits.toNat

def magnitude : Nat :=
  x.bits.toNat % signBit

def isFinite : Bool :=
  x.magnitude < infinityBits

/-- The integer multiple of `2 ^ (exponent - 1074)` that a finite magnitude is, as multiple and
exponent. -/
def parts : Nat × Nat :=
  let field := x.magnitude / unit
  if field = 0 then (x.magnitude, 0) else (unit + x.magnitude % unit, field - 1)

def toRatio : Nat × Nat :=
  let (multiple, exponent) := x.parts
  if exponent ≤ 1074 then (multiple, Nat.pow 2 (1074 - exponent))
  else (multiple * Nat.pow 2 (exponent - 1074), 1)

/-- The number with its sign bit set. -/
def negated : Binary64 :=
  ofMagnitude true x.magnitude

def mul (y : Binary64) : Binary64 :=
  let (a, b) := x.toRatio
  let (c, d) := y.toRatio
  if x.isFinite && y.isFinite then ofRatio false (a * c) (b * d)
  else ofMagnitude false infinityBits

/-- The rounded quotient of a finite magnitude by a positive one. -/
def div (y : Binary64) : Binary64 :=
  let (a, b) := x.toRatio
  let (c, d) := y.toRatio
  ofRatio false (a * d) (b * c)

/-- A magnitude times a factor plus a summand, rounded once. -/
def mulAdd (factor summand : Nat) : Binary64 :=
  let (a, b) := x.toRatio
  if x.isFinite then ofRatio false (a * factor + summand * b) b
  else ofMagnitude false infinityBits

/-- What a number compares by: its bits, with one zero for both signs. -/
def comparisonKey : UInt64 :=
  if x.magnitude = 0 then 0 else x.bits

end Binary64

end ComponentStyles
