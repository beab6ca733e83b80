import ComponentStyles.Script.Grammar.Modules

/-!
# Statements
-/

namespace ComponentStyles.Script.Grammar

open Parse

variable (g : Grammar)

/-- A leaf from a place to the end of the last token. -/
def leafFrom (kind : LeafStatement) (start : Nat) : Parse Statement :=
  return .leaf kind (← spanFrom start)

def expressionStatement : Parse Statement := do
  let start ← here
  let e ← g.expression
  semicolon
  return .expression (← spanFrom start) e

/-- An expression as a statement, or a statement with a label. -/
def labelledOrExpression (isSingle : Bool) : Parse Statement := do
  let start ← here
  let e ← g.expression
  match e, ← kind with
  | .identifier _, .mark ":" =>
    advance
    let _ ← g.statement isSingle
    leafFrom .other start
  | _, _ =>
    semicolon
    return .expression (← spanFrom start) e

/-- An expression in parentheses behind a word. -/
def condition : Parse Unit := do
  expectMark "("
  let _ ← withIn g.expression
  expectMark ")"

/-- Whether `let` at hand begins a declaration. -/
def atLetDeclaration (isSingle : Bool) : Parse Bool := do
  let next ← following
  match next.kind with
  | .mark "[" => return true
  | .mark m =>
    let ends := [".", "(", ";", "?", ")", "]", "\x7d", ",", ":", "=>"]
    return !isSingle && !assignmentMarks.contains m && (levelOf? next.kind).isNone &&
      !ends.contains m
  | .name "in" false | .name "instanceof" false => return false
  | .endOfText => return false
  | _ => return !isSingle

/-! ## Loops -/

/-- The rest of a loop with a head of three parts, from its first semicolon on. -/
def loopRest : Parse Unit := do
  expectMark ";"
  if !(← atMark ";") then
    let _ ← withIn g.expression
  expectMark ";"
  if !(← atMark ")") then
    let _ ← withIn g.expression
  expectMark ")"
  let _ ← g.statement true

/-- The rest of a loop over something, from the word behind its variable on. -/
def loopOverRest : Parse Unit := do
  if ← eatWord "of" then
    let _ ← withIn (g.assignment true)
  else
    expectWord "in"
    let _ ← withIn g.expression
  expectMark ")"
  let _ ← g.statement true

/-- Whether the head of a loop is over something. -/
def atLoopOver : Parse Bool := return (← atWord "of") || (← atWord "in")

/-- Whether a declaration begins the head of a loop. -/
def atLoopDeclaration : Parse Bool := do
  let next ← following
  let isTarget : Bool :=
    match next.kind with
    | .name text _ => text ≠ "in" && text ≠ "of"
    | .mark "[" | .mark "\x7b" => true
    | _ => false
  match ← kind with
  | .name "var" false | .name "const" false => return true
  | .name "let" false => return isTarget
  | .name "using" false =>
    match next.kind with
    | .name .. => return isTarget && !next.onNewLine
    | _ => return false
  | _ => return false

/-- A loop with a head in parentheses. -/
def forStatement : Parse Unit := do
  expectWord "for"
  let _ ← eatWord "await"
  expectMark "("
  if ← atMark ";" then g.loopRest
  else if ← atLoopDeclaration then
    let isConst ← atWord "const"
    advance
    let faults := (← get).faults
    let bs ← within (fun a => { a with inOperator := false }) (g.declarators isConst true)
    if ← atLoopOver then
      -- What a loop runs over gives its variable a value.
      if bs.length = 1 then modify fun s => { s with faults }
      g.loopOverRest
    else g.loopRest
  else
    let e ← within (fun a => { a with inOperator := false }) g.expression
    if ← atLoopOver then
      let _ ← e.target
      g.loopOverRest
    else g.loopRest

/-! ## Other statements -/

/-- Statements up to the next case or the end of a switch. -/
def caseRest : Parse Unit := do
  expectMark ":"
  let more : Parse Bool :=
    return !(← atWord "case") && !(← atWord "default") && !(← atMark "\x7d") && !(← atEnd)
  let _ ← repeatWhile more (g.statement false) (← bound)

def switchCase : Parse Unit := do
  if ← eatWord "default" then g.caseRest
  else
    expectWord "case"
    let _ ← withIn g.expression
    g.caseRest

def switchRest : Parse Unit := do
  g.condition
  expectMark "\x7b"
  let more : Parse Bool := return !(← atMark "\x7d") && !(← atEnd)
  let _ ← repeatWhile more g.switchCase (← bound)
  expectMark "\x7d"

/-- A block and its handlers behind the word that begins them. -/
def tryRest (start : Nat) : Parse Unit := do
  let _ ← g.block
  let hasCatch ← eatWord "catch"
  if hasCatch then
    if ← eatMark "(" then
      let _ ← g.binding
      g.optionalType
      expectMark ")"
    let _ ← g.block
  if ← eatWord "finally" then
    let _ ← g.block
  else if !hasCatch then note .missingHandler start

/-- Whether a statement may end here without a semicolon, or with one. -/
def atStatementEnd : Parse Bool := do
  return (← atMark ";") || (← atMark "\x7d") || (← atEnd) || (← onNewLine)

/-- A jump to a label, if one is given. -/
def jumpRest : Parse Unit := do
  if !(← atStatementEnd) then
    let _ ← usedName
  semicolon

def returnRest (start : Nat) : Parse Unit := do
  if !(← atStatementEnd) then
    let _ ← withIn g.expression
  semicolon
  if !(← around).returns then note .returnOutsideFunction start

def branches : Parse Unit := do
  g.condition
  let _ ← g.statement true
  if ← eatWord "else" then
    let _ ← g.statement true

def declarationStatement : Parse Statement := do
  let (d, _) ← g.declaration
  return toStatement d

def decorated : Parse Statement := do
  let start ← here
  skipDecorators g (← bound)
  if ← atWord "export" then g.exportStatement start
  else
    let _ ← eatWord "abstract"
    let (_, span) ← g.classFrom start
    return .leaf .classDecl span

/-- Whether resources are declared here: a word and a name on one line. -/
def atResources : Parse Bool := do
  let isName (t : Token) : Bool :=
    match t.kind with
    | .name text _ => !t.onNewLine && text ≠ "in" && text ≠ "of" && text ≠ "instanceof" &&
        text ≠ "as" && text ≠ "satisfies"
    | _ => false
  if ← atWord "using" then return isName (← following)
  else if ← atWord "await" then
    let next ← following
    if next.kind == .name "using" false && !next.onNewLine then
      ahead do
        advance
        return isName (← following)
    else return false
  else return false

def resources : Parse Statement := do
  let start ← here
  let _ ← eatWord "await"
  advance
  let _ ← g.declarators true true
  semicolon
  leafFrom .variable start

/-- A statement that begins with a word of the language. -/
def wordStatement (isSingle : Bool) (word : String) : Parse Statement := do
  let start ← here
  match word with
  | "if" =>
    advance
    g.branches
    leafFrom .conditional start
  | "do" =>
    advance
    let _ ← g.statement true
    expectWord "while"
    g.condition
    let _ ← eatMark ";"
    leafFrom .other start
  | "while" | "with" =>
    advance
    g.condition
    let _ ← g.statement true
    leafFrom .other start
  | "for" =>
    g.forStatement
    leafFrom .other start
  | "continue" | "break" =>
    advance
    jumpRest
    leafFrom .other start
  | "switch" =>
    advance
    g.switchRest
    leafFrom .other start
  | "throw" =>
    advance
    if ← onNewLine then note .lineBreakAfterThrow (← lastStop)
    let _ ← withIn g.expression
    semicolon
    leafFrom .other start
  | "try" =>
    advance
    g.tryRest start
    leafFrom .other start
  | "debugger" =>
    advance
    semicolon
    leafFrom .other start
  | "return" =>
    advance
    g.returnRest start
    leafFrom .returnStmt start
  | "class" | "function" | "var" | "const" => g.declarationStatement
  | "let" => if ← atLetDeclaration isSingle then g.declarationStatement else g.expressionStatement
  | "async" =>
    if ← atAsyncFunction then g.declarationStatement else g.labelledOrExpression isSingle
  | "export" => g.exportStatement start
  | "import" =>
    match (← following).kind with
    | .mark "(" | .mark "." => g.expressionStatement
    | _ => importStatement
  | _ =>
    if ← atTypedDeclaration then g.declarationStatement
    else if ← atResources then g.resources
    else g.labelledOrExpression isSingle

def statementRule (isSingle : Bool) : Parse Statement := do
  let start ← here
  match ← kind with
  | .mark "\x7b" => return .leaf .block (← g.block)
  | .mark ";" =>
    advance
    leafFrom .empty start
  | .mark "@" => g.decorated
  | .name word false => g.wordStatement isSingle word
  | _ => g.labelledOrExpression isSingle

end ComponentStyles.Script.Grammar
