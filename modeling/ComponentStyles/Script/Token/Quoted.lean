import ComponentStyles.Script.Token.Escape

/-!
# Quoted text of scripts

Strings, templates, regular expressions and the text between markup tags. The value of a string is
text even where the script writes half of a surrogate pair: such a half is shown as the replacement
character with the four digits of its number, and then a replacement character that the script
writes itself is shown in the same way.
-/

namespace ComponentStyles.Script

/-- What a string is made of. -/
inductive StringUnit where
  | char (c : Char)
  | half (n : Nat)
  deriving DecidableEq

def fourDigits (n : Nat) : Text :=
  let digits := Nat.toDigits 16 n
  List.replicate (4 - digits.length) '0' ++ digits

def unitsToString (units : List StringUnit) : String :=
  let hasHalf := units.any fun
    | .half _ => true
    | .char _ => false
  String.ofList (units.flatMap fun
    | .char c =>
      if hasHalf && c = '\uFFFD' then c :: fourDigits c.toNat else [c]
    | .half n => '\uFFFD' :: fourDigits n)

/-- The character that an upper and a lower half of a surrogate pair make. -/
def joinHalves (high low : Nat) : Char :=
  Char.ofNat ((high - 0xD800) * 0x400 + (low - 0xDC00) + 0x10000)

/-- What an escape stands for, and the place behind it; none for an escape that stands for
nothing allowed. The place given is behind the backslash. -/
def escapeAt (c : Cursor) : Option (List StringUnit × Cursor) :=
  match c.rest with
  | [] => some ([], c)
  | '\r' :: '\n' :: _ => some ([], c.skip 2)
  | 'n' :: _ => some ([.char '\n'], c.skip 1)
  | 't' :: _ => some ([.char '\t'], c.skip 1)
  | 'r' :: _ => some ([.char '\r'], c.skip 1)
  | 'b' :: _ => some ([.char '\x08'], c.skip 1)
  | 'f' :: _ => some ([.char '\x0c'], c.skip 1)
  | 'v' :: _ => some ([.char '\x0b'], c.skip 1)
  | 'x' :: rest =>
    let digits := rest.take 2
    if digits.length = 2 then
      (hexValue? digits).map fun n => ([.char (Char.ofNat n)], c.skip 3)
    else none
  | 'u' :: _ =>
    match unicodeEscape? (c.skip 1) with
    | none => none
    | some (n, isShort, behind) =>
      if !isSurrogate n then some ([.char (Char.ofNat n)], behind)
      else
        match behind.rest with
        | '\\' :: 'u' :: _ =>
          match unicodeEscape? (behind.skip 2) with
          | some (low, true, behind') =>
            if isShort && n ≤ 0xDBFF && 0xDC00 ≤ low && low ≤ 0xDFFF then
              some ([.char (joinHalves n low)], behind')
            else some ([.half n], behind)
          | _ => some ([.half n], behind)
        | _ => some ([.half n], behind)
  | d :: rest =>
    if isLineBreak d then some ([], c.skip 1)
    else if '0' ≤ d && d ≤ '7' then
      let most := if d ≤ '3' then 3 else 2
      let digits := ((d :: rest).take most).takeWhile fun e => '0' ≤ e && e ≤ '7'
      let n := digits.foldl (fun n e => n * 8 + (e.toNat - '0'.toNat)) 0
      some ([.char (Char.ofNat n)], c.skip digits.length)
    else some ([.char d], c.skip 1)

/-- A string as read: its units in reverse, the place reached, whether the closing quote was met,
and its faults, the last one first. -/
structure StringRead where
  units : List StringUnit
  next : Cursor
  isClosed : Bool := false
  faults : List Located := []

/-- Reads a string behind its opening quote. -/
def readString (quote : Char) : Nat → StringRead → StringRead
  | 0, r => r
  | fuel + 1, r =>
    match r.next.rest with
    | [] => r
    | '\\' :: _ =>
      match escapeAt (r.next.skip 1) with
      | some (units, behind) =>
        readString quote fuel { r with units := units.reverse ++ r.units, next := behind }
      | none =>
        readString quote fuel
          { r with
            next := r.next.skip 2
            faults := ⟨.invalidEscape, r.next.offset⟩ :: r.faults }
    | c :: _ =>
      if c = quote then { r with next := r.next.skip 1, isClosed := true }
      else if c = '\n' || c = '\r' then r
      else readString quote fuel { r with units := .char c :: r.units, next := r.next.skip 1 }

def stringAt (c : Cursor) : StringRead :=
  match c.rest with
  | quote :: _ => readString quote c.rest.length { units := [], next := c.skip 1 }
  | [] => { units := [], next := c }

/-- A part of a template as read: whether it ends the template, if it has an end at all, the place
reached, and whether its escapes are all allowed. -/
structure TemplateRead where
  isLast : Option Bool
  next : Cursor
  isValid : Bool := true

/-- Reads a part of a template behind its opening backtick or brace. -/
def readTemplate : Nat → TemplateRead → TemplateRead
  | 0, r => r
  | fuel + 1, r =>
    match r.next.rest with
    | [] => r
    | '\x60' :: _ => { r with isLast := some true, next := r.next.skip 1 }
    | '$' :: '{' :: _ => { r with isLast := some false, next := r.next.skip 2 }
    | '\\' :: d :: e :: _ =>
      let isOctal := d.isDigit && !(d = '0' && !e.isDigit)
      match escapeAt (r.next.skip 1) with
      | some (_, behind) =>
        readTemplate fuel { r with next := behind, isValid := r.isValid && !isOctal }
      | none => readTemplate fuel { r with next := r.next.skip 2, isValid := false }
    | _ => readTemplate fuel { r with next := r.next.skip 1 }

/-- The part of a template at a place: at its opening backtick, or at the brace that ends an
expression in it. -/
def templateAt (c : Cursor) : TemplateRead :=
  readTemplate c.rest.length { isLast := none, next := c.skip 1 }

/-- Reads the body of a regular expression up to its closing slash; none without one. -/
def readRegex : Nat → Bool → Cursor → Option Cursor
  | 0, _, _ => none
  | fuel + 1, inClass, c =>
    match c.rest with
    | [] => none
    | '\\' :: d :: _ => if isLineBreak d then none else readRegex fuel inClass (c.skip 2)
    | '/' :: _ => if inClass then readRegex fuel inClass (c.skip 1) else some (c.skip 1)
    | '[' :: _ => readRegex fuel true (c.skip 1)
    | ']' :: _ => readRegex fuel false (c.skip 1)
    | d :: _ => if isLineBreak d then none else readRegex fuel inClass (c.skip 1)

/-- The flags a regular expression may have. -/
def regexFlags : Text := ['d', 'g', 'i', 'm', 's', 'u', 'v', 'y']

/-- The place behind the regular expression at a place, or what is wrong with it. -/
def regexAt (c : Cursor) : Except Located Cursor :=
  match readRegex c.rest.length false (c.skip 1) with
  | none => .error ⟨.unterminatedRegex, c.offset⟩
  | some behind =>
    let (flags, next) := behind.span Text.isNamePart
    match flags.find? fun f => !regexFlags.contains f with
    | some f => .error ⟨.invalidRegexFlag f, behind.offset⟩
    | none => .ok next

end ComponentStyles.Script
