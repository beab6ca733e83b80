import ComponentStyles.Text.Basic

/-!
# Lines and columns

A byte offset is shown to a reader as a line and a column, both counted from one; a column counts
bytes. Both are words of 32 bits and start over at zero when they run out.
-/

namespace ComponentStyles.Text

/-- A place in a text as a reader sees it. -/
structure Position where
  line : UInt32
  column : UInt32
  deriving DecidableEq, Repr

/-- The part of a text behind its last line break. -/
def lastLine (t : Text) : Text :=
  (t.reverse.takeWhile (· ≠ '\n')).reverse

/-- The line and column of a byte offset. An offset past the end counts as the end. For an offset
inside a character the whole text decides the line, and there is no column when that line starts
behind the offset. -/
def position? (offset : Nat) (t : Text) : Option Position :=
  let offset := min offset t.byteLength
  let before := (t.splitAtByte? offset).elim t (·.1)
  let lineStart := before.byteLength - (lastLine before).byteLength
  if lineStart ≤ offset then
    some ⟨.ofNat (before.count '\n' + 1), .ofNat (offset - lineStart + 1)⟩
  else none

end ComponentStyles.Text
