import ComponentStyles.Script.Token.Trivia

/-!
# Escapes and names

Characters by number, in names and strings, and the names themselves.
-/

namespace ComponentStyles.Script

def hexDigit? (c : Char) : Option Nat :=
  if c.isDigit then some (c.toNat - '0'.toNat)
  else if 'a' ≤ c && c ≤ 'f' then some (c.toNat - 'a'.toNat + 10)
  else if 'A' ≤ c && c ≤ 'F' then some (c.toNat - 'A'.toNat + 10)
  else none

/-- The value of hexadecimal digits; none for no digits or other characters. -/
def hexValue? (digits : Text) : Option Nat :=
  if digits.isEmpty then none
  else digits.foldl (fun n? c => n?.bind fun n => (hexDigit? c).map (n * 16 + ·)) (some 0)

def largestCodePoint : Nat := 0x10FFFF

/-- Whether a number is half of a surrogate pair. -/
def isSurrogate (n : Nat) : Bool :=
  0xD800 ≤ n && n ≤ 0xDFFF

/-- Reads what follows `\u`: four digits, or digits between braces. Also says whether there were
four digits. -/
def unicodeEscape? (c : Cursor) : Option (Nat × Bool × Cursor) :=
  match c.rest with
  | '{' :: _ =>
    let (digits, behind) := (c.skip 1).span fun d => (hexDigit? d).isSome
    match behind.rest, hexValue? digits with
    | '}' :: _, some n => if n ≤ largestCodePoint then some (n, false, behind.skip 1) else none
    | _, _ => none
  | rest =>
    let digits := rest.take 4
    if digits.length = 4 then (hexValue? digits).map fun n => (n, true, c.skip 4) else none

/-- A name as read: its characters in reverse, whether escapes occur in it, and whether it is well
formed. -/
structure NameRead where
  chars : Text
  escaped : Bool
  isValid : Bool
  next : Cursor

/-- Reads the characters of a name from its start on. -/
def readName : Nat → NameRead → NameRead
  | 0, r => r
  | fuel + 1, r =>
    let accepts (c : Char) : Bool :=
      if r.chars.isEmpty then Text.isNameStart c else Text.isNamePart c
    match r.next.rest with
    | '\\' :: 'u' :: _ =>
      match unicodeEscape? (r.next.skip 2) with
      | some (n, _, behind) =>
        if isSurrogate n || !accepts (Char.ofNat n) then { r with isValid := false, next := behind }
        else readName fuel { r with chars := Char.ofNat n :: r.chars, escaped := true, next := behind }
      | none => { r with isValid := false, next := r.next.skip 2 }
    | '\\' :: _ => { r with isValid := false, next := r.next.skip 1 }
    | c :: _ =>
      if accepts c then readName fuel { r with chars := c :: r.chars, next := r.next.skip 1 } else r
    | [] => r

def nameAt (c : Cursor) : NameRead :=
  readName (c.rest.length + 1) { chars := [], escaped := false, isValid := true, next := c }

end ComponentStyles.Script
