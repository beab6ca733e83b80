import ComponentStyles.Script.Token.Basic
import ComponentStyles.Text.CharClass

/-!
# Blanks and comments

What stands between tokens: blanks, line breaks and comments. A comment that is not ended takes
the rest of the text.
-/

namespace ComponentStyles.Script

/-- Line breaks of a script. -/
def isLineBreak (c : Char) : Bool :=
  c = '\n' || c = '\r' || c = '\u2028' || c = '\u2029'

/-- Blanks of a script, line breaks apart; the zero-width space and the byte order mark count. -/
def isSpace (c : Char) : Bool :=
  c = ' ' || c = '\t' || c = '\x0b' || c = '\x0c' || c = '\u200B' || c = '\uFEFF' ||
    (0x80 ≤ c.toNat && Text.isBlank c && !isLineBreak c)

/-- What has been skipped: whether it holds a line break, its comments, the last one first, a
comment that is not ended, and the place behind. -/
structure Trivia where
  hasLineBreak : Bool
  comments : List Span
  fault : Option Located
  next : Cursor

/-- The text up to the end of a block comment, and the place behind it; none without an end. -/
def blockComment? : Cursor → Nat → Text → Option (Text × Cursor)
  | _, 0, _ => none
  | c, fuel + 1, seen =>
    match c.rest with
    | [] => none
    | '*' :: '/' :: _ => some (seen.reverse, c.skip 2)
    | d :: _ => blockComment? (c.skip 1) fuel (d :: seen)

def skipTrivia : Nat → Trivia → Trivia
  | 0, t => t
  | fuel + 1, t =>
    match t.next.rest with
    | '/' :: '/' :: _ =>
      let (_, behind) := t.next.span fun c => !isLineBreak c
      skipTrivia fuel
        { t with
          comments := ⟨t.next.offset, behind.offset⟩ :: t.comments
          next := behind }
    | '/' :: '*' :: _ =>
      match blockComment? (t.next.skip 2) t.next.rest.length [] with
      | some (inside, behind) =>
        skipTrivia fuel
          { t with
            hasLineBreak := t.hasLineBreak || inside.any isLineBreak
            comments := ⟨t.next.offset, behind.offset⟩ :: t.comments
            next := behind }
      | none =>
        { t with
          fault := some ⟨.unterminatedComment, t.next.offset⟩
          next := t.next.skip t.next.rest.length }
    | c :: _ =>
      if isLineBreak c then skipTrivia fuel { t with hasLineBreak := true, next := t.next.skip 1 }
      else if isSpace c then skipTrivia fuel { t with next := t.next.skip 1 }
      else t
    | [] => t

/-- Skips the blanks and comments at a place. -/
def trivia (c : Cursor) : Trivia :=
  skipTrivia (c.rest.length + 1)
    { hasLineBreak := false, comments := [], fault := none, next := c }

end ComponentStyles.Script
