import ComponentStyles.Json.Reader

/-!
# Skipping JSON values

A value that nobody wants is only checked for its form: numbers of any size pass, escapes by number
need not be characters, and nesting has no limit.
-/

namespace ComponentStyles.Json

open Scanner

/-- Skips an exponent from its letter on. -/
def skipExponent : Scanner Unit := do
  let _ ← next
  let sign ← peek
  if sign = some '+' || sign = some '-' then let _ ← next
  if (← next).any Char.isDigit then let _ ← run Char.isDigit
  else refuse .badNumber

def skipNumber : Scanner Unit := do
  match ← next with
  | some c =>
    if !c.isDigit then refuse .badNumber
    else if c = '0' then
      if (← peek).any Char.isDigit then complainNext .badNumber
    else let _ ← run Char.isDigit
  | none => refuse .badNumber
  match ← peek with
  | some '.' =>
    let _ ← next
    if (← run Char.isDigit).isEmpty then complainNext .badNumber
    let letter ← peek
    if letter = some 'e' || letter = some 'E' then skipExponent
  | some 'e' | some 'E' => skipExponent
  | _ => return ()

def skipString : Nat → Scanner Unit
  | 0 => refuse .endInString
  | fuel + 1 => do
    match ← peek with
    | none => refuse .endInString
    | some '"' =>
      let _ ← next
    | some '\\' =>
      let _ ← next
      match ← next with
      | none => refuse .endInString
      | some 'u' =>
        let _ ← fourHexDigits
      | some c => if (letterEscape? c).isNone then refuse .badEscape
      skipString fuel
    | some c =>
      if c.toNat < 0x20 then refuse .controlCharacter
      else
        let _ ← next
        skipString fuel

/-- Skips a value that does not nest. -/
def skipScalar (first : Char) : Scanner Unit := do
  let fuel := (← get).rest.length + 1
  match first with
  | 'n' =>
    let _ ← next
    word ['u', 'l', 'l']
  | 't' =>
    let _ ← next
    word ['r', 'u', 'e']
  | 'f' =>
    let _ ← next
    word ['a', 'l', 's', 'e']
  | '"' =>
    let _ ← next
    skipString fuel
  | '-' =>
    let _ ← next
    skipNumber
  | c => if c.isDigit then skipNumber else complainNext .noValue

/-- What surrounds a value: lists and objects. -/
inductive Frame where
  | list
  | object
  deriving DecidableEq

def Frame.close : Frame → Char
  | .list => ']'
  | .object => '}'

/-- Skips the key of a member and its colon. -/
def skipKey : Scanner Unit := do
  match ← peekVisible with
  | some '"' =>
    let _ ← next
    skipString ((← get).rest.length + 1)
  | some _ => complainNext .keyNotString
  | none => complainNext .endInObject
  colon

/-- Where skipping stands: before a value, or behind one (`behind true`) or behind an opening
bracket (`behind false`) of the innermost frame. -/
inductive SkipStep where
  | value
  | behind (item : Bool)

/-- Skips what is open: a value is to come or has been read, inside of the frames. -/
def skipWithin : Nat → SkipStep → List Frame → Scanner Unit
  | 0, _, _ => refuse .endInValue
  | fuel + 1, .value, frames => do
    match ← peekVisible with
    | none => complainNext .endInValue
    | some '[' =>
      let _ ← next
      skipWithin fuel (.behind false) (.list :: frames)
    | some '{' =>
      let _ ← next
      skipWithin fuel (.behind false) (.object :: frames)
    | some c =>
      skipScalar c
      skipWithin fuel (.behind true) frames
  | _ + 1, .behind _, [] => return ()
  | fuel + 1, .behind item, frame :: frames => do
    match ← peekVisible with
    | none => complainNext (if frame = .list then .endInList else .endInObject)
    | some c =>
      if c = frame.close then
        let _ ← next
        skipWithin fuel (.behind true) frames
      else if item && c ≠ ',' then
        complainNext (if frame = .list then .noListSeparator else .noObjectSeparator)
      else
        if item then let _ ← next
        if frame = .object then skipKey
        skipWithin fuel .value (frame :: frames)

def skip : Scanner Unit := do
  skipWithin (2 * (← get).rest.length + 2) .value []

end ComponentStyles.Json
