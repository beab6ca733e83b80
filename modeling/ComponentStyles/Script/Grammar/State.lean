import ComponentStyles.Script.Outline
import ComponentStyles.Script.Token.Lexer

/-!
# Reading by grammar

The state of a reader of a script, its steps, and how it looks ahead. A step either goes on or gives
up for good; faults that do not stop the reading are collected on the way. Looking ahead is running
a step and taking the state back.
-/

namespace ComponentStyles.Script

/-- Which extensions of the language are on. -/
structure Dialect where
  typed : Bool
  markup : Bool
  deriving DecidableEq, Repr

/-- What is allowed where the reader stands. -/
structure Surroundings where
  inOperator : Bool := true
  yield : Bool := false
  await : Bool := true
  returns : Bool := false
  ambient : Bool := false
  conditionalTypes : Bool := true

/-- The state of a reader. -/
structure State where
  dialect : Dialect
  /-- The token at hand. -/
  token : Token
  /-- The place behind it. -/
  next : Cursor
  /-- The end of the token before it. -/
  lastStop : Nat
  /-- The comments so far, the last one first. -/
  comments : List Span
  /-- Faults of tokens, the last one first. -/
  tokenFaults : List Located
  /-- Faults that did not stop the reading, the last one first. -/
  faults : List Located
  around : Surroundings
  /-- Places of parentheses that are known not to begin the parameters of a function. -/
  notParameters : List Nat
  /-- Properties with a default, which only the target of an assignment may have, the last one
  first; each is given by its start and the start of its default. -/
  defaults : List (Nat × Nat)
  /-- The names exported so far with the places of their exports, the last one first. -/
  exports : List (String × Nat)

/-- Why a reader gives up: a fault, or more nesting than it can follow. -/
inductive Stop where
  | fault (l : Located)
  | tooDeep
  deriving DecidableEq, Repr

/-- A step of reading. -/
abbrev Parse := EStateM Stop State

namespace Parse

variable {α : Type}

/-- Gives up with a fault at a place. -/
def failAt (d : Diagnostic) (offset : Nat) : Parse α :=
  throw (.fault ⟨d, offset⟩)

/-- Notes a fault and goes on. -/
def note (d : Diagnostic) (offset : Nat) : Parse Unit :=
  modify fun s => { s with faults := ⟨d, offset⟩ :: s.faults }

/-- The kind of the token at hand. -/
def kind : Parse TokenKind := return (← get).token.kind

/-- The start of the token at hand. -/
def here : Parse Nat := return (← get).token.span.start

/-- The end of the token before the one at hand. -/
def lastStop : Parse Nat := return (← get).lastStop

/-- The span from a place to the end of the last token. -/
def spanFrom (start : Nat) : Parse Span := return ⟨start, ← lastStop⟩

/-- Whether a line break precedes the token at hand. -/
def onNewLine : Parse Bool := return (← get).token.onNewLine

def isTyped : Parse Bool := return (← get).dialect.typed

def isMarkup : Parse Bool := return (← get).dialect.markup

def around : Parse Surroundings := return (← get).around

/-- Makes the token of a lexeme the one at hand. -/
def install (l : Lexeme) : Parse Unit :=
  modify fun s =>
    { s with
      token := l.token
      next := l.next
      comments := l.comments ++ s.comments
      tokenFaults := l.faults ++ s.tokenFaults }

def advance : Parse Unit := do
  let s ← get
  set { s with lastStop := s.token.span.stop }
  install (lexemeAt s.next)

/-- Goes on to a token that is read in a way of its own. -/
def advanceWith (read : Cursor → Lexeme) : Parse Unit := do
  let s ← get
  set { s with lastStop := s.token.span.stop }
  install (read s.next)

/-- Reads the token at hand again in another way. -/
def reread (read : Token → Lexeme) : Parse Unit := do
  install (read (← get).token)

/-- The token behind the one at hand. -/
def following : Parse Token := return (lexemeAt (← get).next).token

/-- Gives up at a token that cannot stand here. At the end of the text, or at characters that are no
token, the last fault of a token is the reason. -/
def unexpected : Parse α := do
  let s ← get
  match s.token.kind, s.tokenFaults with
  | .endOfText, fault :: rest | .invalid, fault :: rest =>
    set { s with tokenFaults := rest }
    throw (.fault fault)
  | _, _ => failAt .unexpectedToken s.token.span.start

def atMark (m : String) : Parse Bool := return (← kind) == .mark m

/-- Whether a word is at hand, written without escapes. -/
def atWord (w : String) : Parse Bool := return (← kind) == .name w false

/-- Goes on if a mark is at hand. -/
def eatMark (m : String) : Parse Bool := do
  if ← atMark m then
    advance
    return true
  else return false

/-- Goes on if a word is at hand. -/
def eatWord (w : String) : Parse Bool := do
  if ← atWord w then
    advance
    return true
  else return false

/-- Gives up for want of a token. -/
def missing (wanted : String) : Parse α := do
  let s ← get
  failAt (.expectedToken wanted s.token.kind.describe) s.token.span.start

/-- Goes on over a mark that must be at hand. -/
def expectMark (m : String) : Parse Unit := do
  if ← atMark m then advance else missing m

/-- Goes on over a word that must be at hand. -/
def expectWord (w : String) : Parse Unit := do
  if ← atWord w then advance else missing w

def atEnd : Parse Bool := return (← kind) == .endOfText

/-- Whether no further item of a list can come: at its end, at the end of the text, or at characters
that are no token. -/
def atListEnd (close : String) : Parse Bool := do
  let k ← kind
  return k == .mark close || k == .endOfText || k == .invalid

/-- Runs a step and takes the state back; none if the step gives up. What is known of parentheses is
kept. -/
def lookAhead (p : Parse α) : Parse (Option α) := fun s =>
  match p s with
  | .ok a s' => .ok (some a) { s with notParameters := s'.notParameters }
  | .error .tooDeep s' => .error .tooDeep s'
  | .error (.fault _) s' => .ok none { s with notParameters := s'.notParameters }

def ahead (p : Parse Bool) : Parse Bool := return (← lookAhead p).getD false

/-- Runs a step, or does nothing if it gives up or yields nothing. -/
def attempt (p : Parse (Option α)) : Parse (Option α) := fun s =>
  match p s with
  | .ok (some a) s' => .ok (some a) s'
  | .ok none s' => .ok none { s with notParameters := s'.notParameters }
  | .error .tooDeep s' => .error .tooDeep s'
  | .error (.fault _) s' => .ok none { s with notParameters := s'.notParameters }

def within (change : Surroundings → Surroundings) (p : Parse α) : Parse α := do
  let old ← around
  modify fun s => { s with around := change s.around }
  let a ← p
  modify fun s => { s with around := old }
  return a

/-- Runs a step where `in` is an operator. -/
def withIn (p : Parse α) : Parse α :=
  within (fun a => { a with inOperator := true }) p

/-- Ends a statement: with its semicolon, or without where one can be left out. -/
def semicolon : Parse Unit := do
  if ← eatMark ";" then return ()
  else if (← atMark "\x7d") || (← atEnd) || (← onNewLine) then return ()
  else failAt .missingSemicolon (← lastStop)

/-- A bound on the number of tokens to come. -/
def bound : Parse Nat := return (← get).next.rest.length + 2

/-- Runs a step as long as a test holds, so many times at most. -/
def repeatWhile (test : Parse Bool) (step : Parse α) : Nat → Parse (List α)
  | 0 => throw .tooDeep
  | fuel + 1 => do
    if ← test then
      let a ← step
      let rest ← repeatWhile test step fuel
      return a :: rest
    else return []

/-- The items of a list behind its first one, each behind a comma. The list may end with a comma;
its place is given in that case. -/
def moreItems (close : String) (item : Parse α) : Nat → Parse (List α × Option Nat)
  | 0 => throw .tooDeep
  | fuel + 1 => do
    if ← atListEnd close then return ([], none)
    else if ← atMark "," then
      let comma ← here
      advance
      if ← atMark close then return ([], some comma)
      else
        let a ← item
        let (rest, trailing) ← moreItems close item fuel
        return (a :: rest, trailing)
    else
      let s ← get
      failAt (.expectedSeparator "," close s.token.kind.describe) s.token.span.start

/-- The items of a list up to its closing mark, and the place of a comma at the end. -/
def listItems (close : String) (item : Parse α) : Parse (List α × Option Nat) := do
  if ← atListEnd close then return ([], none)
  else
    let a ← item
    let (rest, trailing) ← moreItems close item (← bound)
    return (a :: rest, trailing)

/-- The items of a list and its closing mark. -/
def closedItems (close : String) (item : Parse α) : Parse (List α) := do
  let (items, _) ← listItems close item
  expectMark close
  return items

def reservedWords : List String :=
  ["break", "case", "catch", "class", "const", "continue", "debugger", "default", "delete", "do",
    "else", "enum", "export", "extends", "false", "finally", "for", "function", "if", "import",
    "in", "instanceof", "new", "null", "return", "super", "switch", "this", "throw", "true", "try",
    "typeof", "var", "void", "while", "with"]

/-- Whether a name may stand for a variable here. -/
def isVariable (a : Surroundings) (text : String) : Bool :=
  !reservedWords.contains text && !(a.yield && text = "yield") && !(a.await && text = "await")

/-- Whether the token at hand may stand for a variable. -/
def atVariable : Parse Bool := do
  match ← kind with
  | .name text _ => return isVariable (← around) text
  | _ => return false

/-- Whether any name or word is at hand. -/
def atAnyName : Parse Bool := do
  match ← kind with
  | .name .. => return true
  | _ => return false

/-- Reads a name or word of any kind. -/
def anyName : Parse Name := do
  match ← get with
  | { token := { kind := .name text _, span, .. }, .. } =>
    advance
    return { text, span }
  | _ => unexpected

/-- Reads the name of a variable that is used. -/
def usedName : Parse Name := do
  if ← atVariable then anyName else unexpected

/-- Reads the name of a variable that is declared. -/
def boundName : Parse Name := do
  if ← atVariable then anyName
  else
    match ← kind with
    | .name text _ => failAt (.reservedName text) (← here)
    | _ => unexpected

end Parse

end ComponentStyles.Script
