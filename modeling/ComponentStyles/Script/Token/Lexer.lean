import ComponentStyles.Script.Token.Number
import ComponentStyles.Script.Token.Quoted

/-!
# Reading tokens

`lexemeAt` reads the token at a place. A slash reads as a division, a closing brace as a mark and an
angle bracket as a single one; `regexLexeme`, `templateLexeme` and `angleLexeme` read such a token
again where the grammar wants something else.
-/

namespace ComponentStyles.Script

/-- The marks of the language; of two that fit, the longer one comes first. Closing angle brackets
are read one at a time. -/
def marks : List String :=
  ["\x7b", "\x7d", "(", ")", "[", "]", ";", ",", "<<=", "<<", "<=", "<", "===", "==", "=>", "=",
    "!==", "!=", "!", "+=", "++", "+", "-=", "--", "-", "**=", "**", "*=", "*", "/=", "/", "%=",
    "%", "&&=", "&&", "&=", "&", "||=", "||", "|=", "|", "^=", "^", "~", "??=", "??", "?.", "?",
    ":", "...", ".", "@", ">"]

/-- Marks that begin with a closing angle bracket, the longer ones first. -/
def angleMarks : List String :=
  [">>>=", ">>>", ">>=", ">>", ">=", ">"]

/-- The first mark of a list that a text begins with. -/
def markAt? (among : List String) (t : Text) : Option String :=
  among.find? fun m => m.toList.isPrefixOf t

/-- The mark at the start of a text; a question mark and a point are one mark unless a digit
follows. -/
def mark? (t : Text) : Option String :=
  match t with
  | '?' :: '.' :: d :: _ => if d.isDigit then some "?" else some "?."
  | _ => markAt? marks t

/-- What stands at a place between tokens: its kind, the place behind, and faults. -/
structure Reading where
  kind : TokenKind
  next : Cursor
  faults : List Located := []

/-- Reads a private name behind its sign. -/
def privateNameAt (c : Cursor) : Reading :=
  let name := nameAt (c.skip 1)
  if name.chars.isEmpty && name.isValid then
    { kind := .invalid, next := (c.skip 1).skip 1, faults := [straySeparator (c.skip 1)] }
  else if name.isValid then { kind := .privateName, next := name.next }
  else
    { kind := .invalid, next := name.next, faults := [⟨.invalidUnicodeEscape, c.offset⟩] }

/-- Reads what stands at a place that is not blank. -/
def readingAt (c : Cursor) : Reading :=
  match c.rest with
  | [] => { kind := .endOfText, next := c }
  | first :: rest =>
    if Text.isNameStart first || first = '\\' then
      let name := nameAt c
      if name.isValid then
        { kind := .name (String.ofList name.chars.reverse) name.escaped, next := name.next }
      else
        { kind := .invalid, next := name.next, faults := [⟨.invalidUnicodeEscape, c.offset⟩] }
    else if first.isDigit || (first = '.' && rest.head?.any Char.isDigit) then
      let number := numberAt c
      { kind := number.kind, next := number.next, faults := number.fault.toList }
    else if first = '"' || first = '\'' then
      let string := stringAt c
      if string.isClosed then
        { kind := .string (unitsToString string.units.reverse)
          next := string.next
          faults := string.faults }
      else
        { kind := .invalid
          next := string.next
          faults := ⟨.unterminatedString, c.offset⟩ :: string.faults }
    else if first = '\x60' then
      let part := templateAt c
      match part.isLast with
      | some isLast => { kind := .template isLast part.isValid, next := part.next }
      | none => { kind := .invalid, next := part.next, faults := [⟨.unterminatedString, c.offset⟩] }
    else if first = '#' then privateNameAt c
    else
      match mark? c.rest with
      | some m => { kind := .mark m, next := c.skip m.length }
      | none =>
        { kind := .invalid, next := c.skip 1, faults := [⟨.invalidCharacter first, c.offset⟩] }

/-- The token read at a place, behind what has been skipped. -/
def Reading.lexeme (start : Cursor) (t : Trivia) (r : Reading) : Lexeme :=
  { token :=
      { kind := r.kind
        span := ⟨start.offset, r.next.offset⟩
        onNewLine := t.hasLineBreak
        source := start.rest }
    next := r.next
    comments := t.comments
    faults := r.faults }

/-- The token at a place, behind blanks and comments. -/
def lexemeAt (c : Cursor) : Lexeme :=
  let t := trivia c
  match t.fault with
  | some fault =>
    { token :=
        { kind := .endOfText
          span := ⟨fault.offset, t.next.offset⟩
          onNewLine := t.hasLineBreak
          source := [] }
      next := t.next
      comments := t.comments
      faults := [fault] }
  | none => (readingAt t.next).lexeme t.next t

/-- Nothing skipped, with the line break before a token that is read again. -/
def Token.trivia (token : Token) : Trivia :=
  { hasLineBreak := token.onNewLine
    comments := []
    fault := none
    next := { rest := token.source, offset := token.span.start } }

def Token.cursor (token : Token) : Cursor :=
  { rest := token.source, offset := token.span.start }

/-- The regular expression that begins where a token does. -/
def regexLexeme (token : Token) : Lexeme :=
  let reading : Reading :=
    match regexAt token.cursor with
    | .ok next => { kind := .regex, next }
    | .error fault =>
      { kind := .invalid, next := token.cursor.skip token.source.length, faults := [fault] }
  reading.lexeme token.cursor token.trivia

/-- The part of a template that begins with a closing brace. -/
def templateLexeme (token : Token) : Lexeme :=
  let part := templateAt token.cursor
  let reading : Reading :=
    match part.isLast with
    | some isLast => { kind := .template isLast part.isValid, next := part.next }
    | none =>
      { kind := .invalid
        next := part.next
        faults := [⟨.unterminatedString, token.span.start⟩] }
  reading.lexeme token.cursor token.trivia

/-- The longest mark that begins with a closing angle bracket. -/
def angleLexeme (token : Token) : Lexeme :=
  let mark := (markAt? angleMarks token.source).getD ">"
  let reading : Reading := { kind := .mark mark, next := token.cursor.skip mark.length }
  reading.lexeme token.cursor token.trivia

/-- The opening angle bracket alone of a mark that begins with one. -/
def openAngleLexeme (token : Token) : Lexeme :=
  let reading : Reading := { kind := .mark "<", next := token.cursor.skip 1 }
  reading.lexeme token.cursor token.trivia

/-- The name in markup that begins where a token does: hyphens belong to it. -/
def markupNameLexeme (token : Token) : Lexeme :=
  let (chars, next) := token.cursor.span fun c => Text.isNamePart c || c = '-'
  let reading : Reading := { kind := .name (String.ofList chars) false, next }
  reading.lexeme token.cursor token.trivia

/-- The token at a place where the value of a markup attribute is due: a string has no escapes and
may span lines. -/
def markupValueLexeme (c : Cursor) : Lexeme :=
  let t := trivia c
  match t.fault, t.next.rest with
  | none, quote :: rest =>
    if quote = '"' || quote = '\'' then
      let value := rest.takeWhile (· ≠ quote)
      let behind := t.next.skip (value.length + 1)
      let reading : Reading :=
        if behind.rest.isEmpty then
          { kind := .invalid, next := behind, faults := [⟨.unterminatedString, t.next.offset⟩] }
        else { kind := .string (String.ofList value), next := behind.skip 1 }
      reading.lexeme t.next t
    else lexemeAt c
  | _, _ => lexemeAt c

/-- The faults of markup text: closing braces and angle brackets, the last one first. -/
def markupTextFaults (offset : Nat) : Text → List Located → List Located
  | [], faults => faults
  | c :: rest, faults =>
    markupTextFaults (offset + c.utf8Size) rest
      (if c = '}' || c = '>' then ⟨.strayInMarkup c, offset⟩ :: faults else faults)

/-- The token at a place between the tags of markup: text up to the next opening brace or angle
bracket stands for nothing. -/
def markupChildLexeme (c : Cursor) : Lexeme :=
  let (text, next) := c.span fun d => d ≠ '{' && d ≠ '<'
  let faults := markupTextFaults c.offset text []
  let nothing : Trivia := { hasLineBreak := false, comments := [], fault := none, next }
  let reading : Reading :=
    match next.rest with
    | [] => { kind := .endOfText, next, faults }
    | d :: _ => { kind := .mark (String.singleton d), next := next.skip 1, faults }
  reading.lexeme next nothing

end ComponentStyles.Script
