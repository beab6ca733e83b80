import ComponentStyles.Json.Complaint
import ComponentStyles.Text.Utf8

/-!
# Scanning JSON text

The lexical level of JSON: blanks, words, numbers and strings, read byte by byte. The scanner keeps
the number of bytes read, because a complaint is placed either behind the last byte read
(`complain`) or behind the byte looked at next (`complainNext`).
-/

namespace ComponentStyles.Json

/-- The bytes read so far, counted, and the bytes to come, each as the character of its number. -/
structure Scan where
  index : Nat
  rest : List Char

def Scan.start (t : Text) : Scan :=
  { index := 0, rest := t.toBytes.map fun b => Char.ofNat b.toNat }

/-- A reading step: it moves the scan, also when it fails. -/
abbrev Scanner := EStateM Failure Scan

namespace Scanner

def complain {α : Type} (c : Complaint) : Scanner α := do
  let scan ← get
  throw { complaint := c, index := some scan.index }

/-- Fails behind the next byte, or at the end of the text. -/
def complainNext {α : Type} (c : SyntaxFault) : Scanner α := do
  let scan ← get
  let ahead := if scan.rest.isEmpty then 0 else 1
  throw { complaint := .malformed c, index := some (scan.index + ahead) }

/-- Fails behind the last byte read with a fault of the text. -/
def refuse {α : Type} (fault : SyntaxFault) : Scanner α :=
  complain (.malformed fault)

/-- The next byte, which stays unread. -/
def peek : Scanner (Option Char) := do
  return (← get).rest.head?

def next : Scanner (Option Char) := do
  match ← get with
  | { index, rest := c :: rest } =>
    set { index := index + 1, rest : Scan }
    return some c
  | _ => return none

/-- Reads the longest run of bytes of a class. -/
def run (accepts : Char → Bool) : Scanner (List Char) := do
  let scan ← get
  let taken := scan.rest.takeWhile accepts
  set { index := scan.index + taken.length, rest := scan.rest.dropWhile accepts : Scan }
  return taken

/-- The blanks of JSON. -/
def isSpace (c : Char) : Bool :=
  c = ' ' || c = '\n' || c = '\t' || c = '\r'

/-- Skips blanks and looks at the byte behind them. -/
def peekVisible : Scanner (Option Char) := do
  let _ ← run isSpace
  peek

/-- Reads the remaining letters of a word. -/
def word : List Char → Scanner Unit
  | [] => return ()
  | expected :: rest => do
    match ← next with
    | none => refuse .endInValue
    | some c => if c = expected then word rest else refuse .noWord

/-! ## Numbers -/

/-- The largest integer that stays an integer. -/
def largestInteger : Nat := UInt64.size - 1

/-- Appends digits to an integer as long as it stays in range; the count is of those left over. -/
def appendDigits : Nat → List Char → Nat × Nat
  | n, [] => (n, 0)
  | n, c :: rest =>
    let n' := n * 10 + (c.toNat - '0'.toNat)
    if n' ≤ largestInteger then appendDigits n' rest else (n, rest.length + 1)

/-- An integer times a power of ten, each step rounded; none beyond the finite numbers. -/
def scale? (digits : Nat) (exponent : Int) : Option Binary64 :=
  let power (k : Int) : Binary64 := .ofDecimal false 1 k
  let x := Binary64.ofNat digits
  if digits = 0 then some x
  else if 308 < exponent then none
  else if 0 ≤ exponent then
    let y := x.mul (power exponent)
    if y.isFinite then some y else none
  else if -308 ≤ exponent then some (x.div (power (-exponent)))
  else if -616 ≤ exponent then some ((x.div (power 308)).div (power (-exponent - 308)))
  else some (.ofNat 0)

def scaled (negative : Bool) (digits : Nat) (exponent : Int) : Scanner JsonNumber :=
  match scale? digits exponent with
  | some x => return .double (if negative then x.negated else x)
  | none => refuse .numberTooLarge

/-- The largest exponent that is added up; a larger one is out of range whatever the digits. -/
def largestExponent : Nat := 0x7FFFFFFF

/-- Reads the digits of an exponent; none when they pass the largest exponent, in which case the
rest of them is unread. -/
def exponentDigits : Nat → Nat → Scanner (Option Nat)
  | 0, n => return some n
  | fuel + 1, n => do
    match ← peek with
    | some c =>
      if c.isDigit then
        let _ ← next
        let n' := n * 10 + (c.toNat - '0'.toNat)
        if n' ≤ largestExponent then exponentDigits fuel n' else return none
      else return some n
    | none => return some n

/-- Reads an exponent from its letter on. -/
def exponentPart (negative : Bool) (digits : Nat) (start : Int) : Scanner JsonNumber := do
  let _ ← next
  let sign ← peek
  if sign = some '+' || sign = some '-' then let _ ← next
  match ← next with
  | none => refuse .endInValue
  | some c =>
    if c.isDigit then
      let fuel := (← get).rest.length + 1
      match ← exponentDigits fuel (c.toNat - '0'.toNat) with
      | some n => scaled negative digits (if sign = some '-' then start - n else start + n)
      | none =>
        if digits ≠ 0 && sign ≠ some '-' then refuse .numberTooLarge
        else
          let _ ← run Char.isDigit
          return .double (.ofMagnitude negative 0)
    else refuse .badNumber

/-- Reads an exponent if there is one, and scales. -/
def optionalExponent (negative : Bool) (digits : Nat) (start : Int) : Scanner JsonNumber := do
  match ← peek with
  | some 'e' | some 'E' => exponentPart negative digits start
  | _ => scaled negative digits start

def fractionPart (negative : Bool) (digits : Nat) (start : Int) : Scanner JsonNumber := do
  let _ ← next
  let places ← run Char.isDigit
  if places.isEmpty then
    if (← peek).isNone then complainNext .endInValue else complainNext .badNumber
  else
    let (digits, left) := appendDigits digits places
    optionalExponent negative digits (start - (places.length - left : Nat))

def number (negative : Bool) : Scanner JsonNumber := do
  match ← next with
  | none => refuse .endInValue
  | some c =>
    if !c.isDigit then refuse .badNumber
    else if c = '0' && (← peek).any Char.isDigit then complainNext .badNumber
    else
      let more ← if c = '0' then pure [] else run Char.isDigit
      let (digits, left) := appendDigits 0 (c :: more)
      match ← peek with
      | some '.' => fractionPart negative digits left
      | some 'e' | some 'E' => exponentPart negative digits left
      | _ =>
        if 0 < left then scaled negative digits left
        else if !negative then return .int digits
        else if digits = 0 || 0x8000000000000000 < digits then
          return .double (.ofRatio true digits 1)
        else return .int (-digits)

/-! ## Strings -/

def hexValue? (c : Char) : Option Nat :=
  if c.isDigit then some (c.toNat - '0'.toNat)
  else if 'a' ≤ c && c ≤ 'f' then some (c.toNat - 'a'.toNat + 10)
  else if 'A' ≤ c && c ≤ 'F' then some (c.toNat - 'A'.toNat + 10)
  else none

/-- The value of a list of hexadecimal digits. -/
def hexNumber? (cs : List Char) : Option Nat :=
  cs.foldl (fun n? c => n?.bind fun n => (hexValue? c).map (n * 16 + ·)) (some 0)

def fourHexDigits : Scanner Nat := do
  let scan ← get
  let digits := scan.rest.take 4
  set { index := scan.index + digits.length, rest := scan.rest.drop 4 : Scan }
  if digits.length < 4 then refuse .endInString
  else
    match hexNumber? digits with
    | some n => return n
    | none => refuse .badEscape

/-- Reads one byte that the second half of a surrogate pair needs. -/
def pairByte (expected : Char) : Scanner Unit := do
  match ← peek with
  | none => refuse .endInString
  | some c =>
    let _ ← next
    if c = expected then return () else refuse .halfSurrogatePair

/-- Reads the character of an escape by number. -/
def numberEscape : Scanner Char := do
  let n ← fourHexDigits
  if 0xDC00 ≤ n && n ≤ 0xDFFF then refuse .loneSurrogate
  else if n < 0xD800 || 0xDFFF < n then return Char.ofNat n
  else
    pairByte '\\'
    pairByte 'u'
    let low ← fourHexDigits
    if low < 0xDC00 || 0xDFFF < low then refuse .loneSurrogate
    else return Char.ofNat ((n - 0xD800) * 0x400 + (low - 0xDC00) + 0x10000)

def letterEscape? : Char → Option Char
  | '"' => some '"'
  | '\\' => some '\\'
  | '/' => some '/'
  | 'b' => some '\x08'
  | 'f' => some '\x0c'
  | 'n' => some '\n'
  | 'r' => some '\r'
  | 't' => some '\t'
  | _ => none

def escape : Scanner Char := do
  match ← next with
  | none => refuse .endInString
  | some 'u' => numberEscape
  | some c =>
    match letterEscape? c with
    | some d => return d
    | none => refuse .badEscape

/-- Reads the rest of a string; the bytes so far are in reverse. -/
def stringFrom : Nat → List UInt8 → Scanner Text
  | 0, _ => refuse .endInString
  | fuel + 1, bytes => do
    match ← next with
    | none => refuse .endInString
    | some '"' => return Text.ofBytes bytes.reverse
    | some '\\' =>
      let c ← escape
      stringFrom fuel ((String.utf8EncodeChar c).reverse ++ bytes)
    | some c =>
      if c.toNat < 0x20 then refuse .controlCharacter
      else stringFrom fuel (UInt8.ofNat c.toNat :: bytes)

/-- Reads a string behind its opening quote. -/
def string : Scanner Text := do
  stringFrom ((← get).rest.length + 1) []

/-- Reads a number from its first byte on. -/
def signedNumber : Scanner JsonNumber := do
  if (← peek) = some '-' then
    let _ ← next
    number true
  else number false

def endOfText : Scanner Unit := do
  if (← peekVisible).isSome then complainNext .trailingText else return ()

end Scanner

/-- The line, from one, and the number of bytes since its start, of a number of bytes read. -/
def place (t : Text) (index : Nat) : Nat × Nat :=
  let read := (t.toBytes.map fun b => Char.ofNat b.toNat).take index
  (read.count '\n' + 1, (read.reverse.takeWhile (· ≠ '\n')).length)

end ComponentStyles.Json
