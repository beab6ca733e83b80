import ComponentStyles.Number.Binary64
import ComponentStyles.Text.Basic

/-!
# Shortest decimal text of a binary64 number

The fewest digits that read back as the number, and of those the ones nearest to it; `render`
places the point.
-/

namespace ComponentStyles.Binary64

/-- Whether `a / b ≤ c / d`, for positive denominators. -/
def ratioLe (a b c d : Nat) : Bool :=
  a * d ≤ c * b

/-- The digits `d` and the exponent `p` of the shortest decimal `d * 10 ^ p` that reads back as a
positive finite number. -/
def shortestDigits (x : Binary64) : Nat × Int :=
  let (multiple, exponent) := x.parts
  -- The reals that round to x reach half a step up, and half a step down: half of the smaller
  -- step where x is a power of two. All in quarters of a step.
  let down := if multiple = unit ∧ 0 < exponent then 1 else 2
  let quarter (n : Nat) : Nat × Nat :=
    if exponent ≤ 1076 then (n, Nat.pow 2 (1076 - exponent))
    else (n * Nat.pow 2 (exponent - 1076), 1)
  let (num, den) := quarter (4 * multiple)
  let low := (quarter (4 * multiple - down)).1
  let high := (quarter (4 * multiple + 2)).1
  let closed := multiple % 2 = 0
  let within (a b : Nat) : Bool :=
    if closed then ratioLe low den a b && ratioLe a b high den
    else !ratioLe a b low den && !ratioLe high den a b
  -- Grids of steps 10 ^ p, from coarse to fine.
  let top : Int := ((num.log2 : Int) - den.log2) * 30103 / 100000 + 1
  let candidate (p : Int) : Option (Nat × Int) :=
    let (gridNum, gridDen) :=
      if 0 ≤ p then (Nat.pow 10 p.toNat, 1) else (1, Nat.pow 10 (-p).toNat)
    let below := num * gridDen / (den * gridNum)
    let fits (d : Nat) : Bool := 0 < d && within (d * gridNum) gridDen
    let nearer := roundDiv (num * gridDen) (den * gridNum)
    if fits nearer then some (nearer, p)
    else if fits below then some (below, p)
    else if fits (below + 1) then some (below + 1, p)
    else none
  ((List.range 20).findSome? fun (k : Nat) => candidate (top - k)).getD (0, 0)

def digitsText (n : Nat) : Text :=
  (toString n).toList

/-- The text of a finite number: its shortest digits, positional with at least one digit behind the
point from `0.00001` up to sixteen digits before the point, and else with one digit before the
point and an exponent. -/
def render (x : Binary64) : Text :=
  let sign : Text := if x.isNegative then ['-'] else []
  if x.magnitude = 0 then sign ++ ['0', '.', '0']
  else
    let (d, p) := x.shortestDigits
    let digits := digitsText d
    -- The number of digits before the point.
    let point : Int := digits.length + p
    let body :=
      if 0 ≤ p ∧ point ≤ 16 then digits ++ List.replicate p.toNat '0' ++ ['.', '0']
      else if 0 < point ∧ point ≤ 16 then
        digits.take point.toNat ++ '.' :: digits.drop point.toNat
      else if -5 < point ∧ point ≤ 0 then
        '0' :: '.' :: List.replicate (-point).toNat '0' ++ digits
      else
        let lead := if digits.length = 1 then digits else digits.take 1 ++ '.' :: digits.drop 1
        let exponent := point - 1
        lead ++ 'e' :: (if exponent < 0 then ['-'] else []) ++ digitsText exponent.natAbs
    sign ++ body

end ComponentStyles.Binary64
