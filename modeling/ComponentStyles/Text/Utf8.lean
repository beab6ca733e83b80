import ComponentStyles.Text.Basic

/-!
# Bytes of a text

The UTF-8 form of a text and its forgiving reader: a sequence of bytes that is no character, cut
as long as it could still have become one, reads as one replacement character.
-/

namespace ComponentStyles.Text

def toBytes (t : Text) : List UInt8 :=
  t.flatMap String.utf8EncodeChar

/-- What stands for bytes that are no character. -/
def replacement : Char := '\uFFFD'

/-- A character of which some bytes are still to come: the bits read so far, how many bytes are
missing, and which values the next byte may have. -/
structure Pending where
  bits : Nat
  missing : Nat
  low : Nat := 0x80
  high : Nat := 0xBF

/-- The state after the first byte of a character of several bytes; none for a byte that starts
no such character. -/
def Pending.start? (b : Nat) : Option Pending :=
  if 0xC2 ≤ b ∧ b ≤ 0xDF then some { bits := b - 0xC0, missing := 1 }
  else if b = 0xE0 then some { bits := 0, missing := 2, low := 0xA0 }
  else if b = 0xED then some { bits := 0xD, missing := 2, high := 0x9F }
  else if 0xE1 ≤ b ∧ b ≤ 0xEF then some { bits := b - 0xE0, missing := 2 }
  else if b = 0xF0 then some { bits := 0, missing := 3, low := 0x90 }
  else if b = 0xF4 then some { bits := 4, missing := 3, high := 0x8F }
  else if 0xF1 ≤ b ∧ b ≤ 0xF3 then some { bits := b - 0xF0, missing := 3 }
  else none

/-- What a byte yields where a character begins. -/
def firstByte (b : Nat) : Text × Option Pending :=
  if b < 0x80 then ([Char.ofNat b], none)
  else
    match Pending.start? b with
    | some p => ([], some p)
    | none => ([replacement], none)

/-- What a byte yields behind an unfinished character, if there is one. -/
def nextByte (pending : Option Pending) (b : Nat) : Text × Option Pending :=
  match pending with
  | none => firstByte b
  | some p =>
    if p.low ≤ b ∧ b ≤ p.high then
      let bits := p.bits * 64 + (b - 0x80)
      if p.missing ≤ 1 then ([Char.ofNat bits], none)
      else ([], some { bits, missing := p.missing - 1 })
    else
      let (t, pending) := firstByte b
      (replacement :: t, pending)

/-- Reads bytes behind an unfinished character, if there is one. -/
def ofBytesFrom : Option Pending → List UInt8 → Text
  | none, [] => []
  | some _, [] => [replacement]
  | pending, b :: rest =>
    let (t, pending) := nextByte pending b.toNat
    t ++ ofBytesFrom pending rest

/-- The text of a sequence of bytes. -/
def ofBytes (bytes : List UInt8) : Text :=
  ofBytesFrom none bytes

end ComponentStyles.Text
