import ComponentStyles.Script.Token.Escape

/-!
# Numbers of scripts

Decimal numbers with fraction and exponent, and integers of base two, eight and sixteen. Digits may
be separated by single underscores.
-/

namespace ComponentStyles.Script

/-- What reading a number yields; a fault takes the place of the number. -/
structure NumberRead where
  kind : TokenKind
  next : Cursor
  fault : Option Located := none

def separatorsAreValid (digits : Text) : Bool :=
  digits.head? != some '_' && digits.getLast? != some '_' &&
    !(['_', '_'].isPrefixOf digits) && !Text.anyTail (['_', '_'].isPrefixOf ·) digits

def plainDigits (digits : Text) : Text :=
  digits.filter (· ≠ '_')

/-- The value of a digit of any base up to sixteen. -/
def digitValue (c : Char) : Nat :=
  (hexDigit? c).getD 0

/-- The natural number that digits of a base spell. -/
def digitsValue (base : Nat) (digits : Text) : Nat :=
  digits.foldl (fun n c => n * base + digitValue c) 0

/-- Whether the digits of a base are so many that they are rounded one by one. -/
def isLong (base : Nat) (digits : Text) : Bool :=
  if base = 2 then 64 < digits.length
  else if base = 8 then (if digits.head? = some '1' then 22 else 21) < digits.length
  else if base = 16 then 16 < digits.length
  else false

/-- The number that the digits of an integer stand for, rounded once, or after each digit when
they are very long digits of a base other than ten. -/
def integerValue (base : Nat) (digits : Text) : Binary64 :=
  if !isLong base digits then .ofNat (digitsValue base digits)
  else digits.foldl (fun x c => x.mulAdd base (digitValue c)) (.ofNat 0)

/-- The fault of digits that run into a character that cannot follow them. -/
def straySeparator (c : Cursor) : Located :=
  match c.rest with
  | d :: _ => ⟨.invalidCharacter d, c.offset⟩
  | [] => ⟨.unexpectedEnd, c.offset⟩

/-- Reads digits of a class with separators; the fault is for misplaced separators. -/
def digitRun (accepts : Char → Bool) (c : Cursor) : Text × Cursor × Option Located :=
  let (digits, behind) := c.span fun d => accepts d || d = '_'
  (plainDigits digits, behind,
    if digits.isEmpty || separatorsAreValid digits then none else some (straySeparator behind))

/-- The exponent at a place: its sign and digits, if there is an exponent letter. -/
def exponentAt (c : Cursor) : Option (Bool × Text × Cursor × Option Located) :=
  match c.rest with
  | 'e' :: _ | 'E' :: _ =>
    let (negative, start) :=
      match (c.skip 1).rest with
      | '-' :: _ => (true, c.skip 2)
      | '+' :: _ => (false, c.skip 2)
      | _ => (false, c.skip 1)
    let (digits, behind, fault) := digitRun Char.isDigit start
    some (negative, digits, behind,
      if digits.isEmpty then some (straySeparator behind) else fault)
  | _ => none

/-- A decimal number from its integer digits on; `start` is where the digits end. -/
def decimalFrom (integer : Text) (fault : Option Located) (start : Cursor) : NumberRead :=
  let (hasPoint, fraction, behind, fault) :=
    match start.rest with
    | '.' :: _ =>
      let (fraction, behind, fault') := digitRun Char.isDigit (start.skip 1)
      (true, fraction, behind, fault.or fault')
    | _ => (false, [], start, fault)
  match exponentAt behind with
  | some (negative, digits, behind, fault') =>
    let exponent : Int := digitsValue 10 digits
    let exponent := if negative then -exponent else exponent
    { kind := .number
        (.ofDecimal false (digitsValue 10 (integer ++ fraction)) (exponent - fraction.length))
      next := behind
      fault := fault.or fault' }
  | none =>
    match hasPoint, behind.rest with
    | true, _ =>
      { kind := .number (.ofDecimal false (digitsValue 10 (integer ++ fraction)) (-fraction.length))
        next := behind
        fault }
    | false, 'n' :: _ => { kind := .bigint, next := behind.skip 1, fault }
    | false, _ => { kind := .number (integerValue 10 integer), next := behind, fault }

/-- An integer of a base behind its two-letter mark. -/
def basedInteger (base : Nat) (accepts : Char → Bool) (start : Cursor) : NumberRead :=
  let (digits, behind, fault) := digitRun accepts start
  if digits.isEmpty then
    { kind := .invalid, next := behind, fault := some (straySeparator behind) }
  else
    match behind.rest with
    | 'n' :: _ => { kind := .bigint, next := behind.skip 1, fault }
    | _ => { kind := .number (integerValue base digits), next := behind, fault }

/-- Whether a character is an octal digit. -/
def isOctalDigit (c : Char) : Bool :=
  '0' ≤ c && c ≤ '7'

/-- Reads a number from its first digit, or the point before its first digit, on. -/
def readNumber (c : Cursor) : NumberRead :=
  match c.rest with
  | '0' :: 'x' :: _ | '0' :: 'X' :: _ =>
    basedInteger 16 (fun d => (hexDigit? d).isSome) (c.skip 2)
  | '0' :: 'o' :: _ | '0' :: 'O' :: _ => basedInteger 8 isOctalDigit (c.skip 2)
  | '0' :: 'b' :: _ | '0' :: 'B' :: _ => basedInteger 2 (fun d => d = '0' || d = '1') (c.skip 2)
  | '.' :: _ => decimalFrom [] none c
  | '0' :: d :: _ =>
    if d.isDigit then
      let (digits, behind) := (c.skip 1).span Char.isDigit
      if digits.all isOctalDigit then
        { kind := .number (integerValue 8 digits), next := behind }
      else decimalFrom digits none behind
    else decimalFrom ['0'] none (c.skip 1)
  | _ =>
    let (digits, behind, fault) := digitRun Char.isDigit c
    decimalFrom digits fault behind

/-- The number at a place. What a name can go on with must not follow it. -/
def numberAt (c : Cursor) : NumberRead :=
  let r := readNumber c
  if r.fault.isSome then { r with kind := .invalid }
  else
    match r.next.rest with
    | d :: _ =>
      if Text.isNamePart d || d = '\\' then
        let name := nameAt r.next
        let (_, behind) := name.next.span fun e => Text.isNamePart e
        { kind := .invalid, next := behind, fault := some ⟨.invalidNumberEnd, r.next.offset⟩ }
      else r
    | [] => r

end ComponentStyles.Script
