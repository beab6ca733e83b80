import ComponentStyles.Script.Grammar.Markup

/-!
# Operands

Expressions without operators: names, literals, functions, members and calls. A chain with an
optional link is kept as a whole.
-/

namespace ComponentStyles.Script.Grammar

open Parse

variable (g : Grammar)

def parentheses : Parse Expression := do
  let start ← here
  expectMark "("
  let innerStart ← here
  let (items, trailing) ← withIn (listItems ")" (g.assignment true))
  match items, trailing with
  | [], _ =>
    expectMark ")"
    failAt .emptyParentheses start
  | _, some comma => failAt (.expectedToken ")" ",") comma
  | [item], none =>
    expectMark ")"
    return .parenthesized (← spanFrom start) item
  | _, none =>
    let inner ← spanFrom innerStart
    expectMark ")"
    return .parenthesized (← spanFrom start) (.leaf .sequence inner)

/-- A leaf that is the token at hand. -/
def tokenLeaf (make : Span → Expression) : Parse Expression := do
  let span := (← get).token.span
  advance
  return make span

def regexLiteral : Parse Expression := do
  reread regexLexeme
  match ← kind with
  | .regex => tokenLeaf (.leaf .other)
  | _ => unexpected

/-- An import used as a value: a call, or a property of the module. -/
def importOperand : Parse Expression := do
  let start ← here
  expectWord "import"
  if ← eatMark "." then
    let _ ← anyName
  if ← eatMark "(" then
    let _ ← withIn (g.assignment true)
    if ← eatMark "," then
      if !(← atMark ")") then
        let _ ← withIn (g.assignment true)
        let _ ← eatMark ","
    expectMark ")"
  else if (← lastStop) = start + 6 then unexpected
  return .leaf .other (← spanFrom start)

/-- Decorators and the class behind them, used as a value. -/
def decoratedClass : Parse Expression := do
  let start ← here
  skipDecorators g (← bound)
  let (_, span) ← g.classFrom start
  return .leaf .classExpr span

/-- An operand that begins with a name or word. -/
def wordOperand (text : String) (escaped : Bool) : Parse Expression := do
  let start ← here
  if escaped then return .identifier (← usedName)
  else
    match text with
    | "this" => tokenLeaf (.leaf .other)
    | "super" => tokenLeaf (.leaf .other)
    | "null" => tokenLeaf .null
    | "true" => tokenLeaf (.boolean · true)
    | "false" => tokenLeaf (.boolean · false)
    | "function" =>
      let f ← g.functionFrom start false true false
      return .leaf .function f.span
    | "class" =>
      let (_, span) ← g.classFrom start
      return .leaf .classExpr span
    | "import" => g.importOperand
    | "async" =>
      let next ← following
      if next.kind == .name "function" false && !next.onNewLine then
        advance
        let f ← g.functionFrom start true true false
        return .leaf .function f.span
      else return .identifier (← usedName)
    | _ => return .identifier (← usedName)

def primary : Parse Expression := do
  let start ← here
  match ← kind with
  | .name text escaped => g.wordOperand text escaped
  | .string value => tokenLeaf fun span => .string { value, span }
  | .number value => tokenLeaf (.number · value)
  | .bigint => tokenLeaf (.leaf .other)
  | .template .. =>
    g.template false
    return .leaf .template (← spanFrom start)
  | .mark "(" => g.parentheses
  | .mark "[" => g.arrayLiteral
  | .mark "\x7b" => g.objectLiteral
  | .mark "/" | .mark "/=" => regexLiteral
  | .mark "@" => g.decoratedClass
  | .mark "<" =>
    if ← isMarkup then
      g.markup false
      return .leaf .other (← spanFrom start)
    else failAt .unexpectedMarkup start
  | _ => unexpected

/-- Whether what follows type arguments shows that they were such. -/
def afterTypeArguments : Parse Bool := do
  match ← kind with
  | .mark "(" | .template .. => return true
  | .mark "<" | .mark ">" | .mark "+" | .mark "-" => return false
  | .mark m =>
    let begins := ["[", "\x7b", "!", "~", "++", "--", "/", "/=", "@"]
    return (← onNewLine) || !begins.contains m
  | .name "in" false | .name "instanceof" false | .name "as" false
  | .name "satisfies" false => return true
  | .endOfText => return true
  | _ => onNewLine

/-- Type arguments of a call, if they are such and not comparisons. -/
def callTypeArguments : Parse Bool := do
  if (← isTyped) && (← atAngle) then
    let found ← attempt do
      g.typeArguments
      if ← afterTypeArguments then return some () else return none
    return found.isSome
  else return false

def memberName (start : Nat) : Parse Expression := do
  match ← kind with
  | .privateName =>
    advance
    return .privateMember (← spanFrom start)
  | _ =>
    let _ ← anyName
    return .member (← spanFrom start)

/-- The member whose key is in brackets. -/
def computedMember (start : Nat) : Parse Expression := do
  expectMark "["
  let _ ← withIn g.expression
  expectMark "]"
  return .member (← spanFrom start)

/-- The link behind an optional chaining mark. -/
def optionalLink (start : Nat) (callee : Expression) : Parse Expression := do
  match ← kind with
  | .mark "(" =>
    let arguments ← g.callArguments
    return .call (← spanFrom start) callee arguments
  | .mark "[" => g.computedMember start
  | .template .. => failAt .optionalChainTemplate (← here)
  | _ =>
    if ← g.callTypeArguments then
      let arguments ← g.callArguments
      return .call (← spanFrom start) callee arguments
    else memberName start

/-- The links of a chain behind its first operand; also says whether one is optional. -/
def links (calls : Bool) (start : Nat) :
    Nat → Expression → Bool → Parse (Expression × Bool)
  | 0, _, _ => throw .tooDeep
  | fuel + 1, e, isOptional => do
    match ← kind with
    | .mark "." =>
      advance
      links calls start fuel (← memberName start) isOptional
    | .mark "?." =>
      if !calls then failAt .optionalChainInNew (← here)
      advance
      links calls start fuel (← g.optionalLink start e) true
    | .mark "[" => links calls start fuel (← g.computedMember start) isOptional
    | .mark "(" =>
      if calls then
        let arguments ← g.callArguments
        links calls start fuel (.call (← spanFrom start) e arguments) isOptional
      else return (e, isOptional)
    | .mark "!" =>
      if (← isTyped) && !(← onNewLine) then
        advance
        links calls start fuel (.typed (← spanFrom start) e) isOptional
      else return (e, isOptional)
    | .template .. =>
      if isOptional then failAt .optionalChainTemplate (← here)
      g.template true
      links calls start fuel (.leaf .other (← spanFrom start)) isOptional
    | _ =>
      if ← g.callTypeArguments then
        if calls && (← atMark "(") then
          let arguments ← g.callArguments
          links calls start fuel (.call (← spanFrom start) e arguments) isOptional
        else if (← atMark "(") then return (e, isOptional)
        else links calls start fuel (.leaf .other (← spanFrom start)) isOptional
      else return (e, isOptional)

/-- What `new` makes: its callee is a chain without calls. -/
def construction : Nat → Parse Expression
  | 0 => throw .tooDeep
  | fuel + 1 => do
    let start ← here
    expectWord "new"
    if ← eatMark "." then
      expectWord "target"
      return .leaf .other (← spanFrom start)
    else
      let calleeStart ← here
      if (← atWord "import") && (← following).kind == .mark "(" then failAt .importInNew calleeStart
      let first ← if ← atWord "new" then construction fuel else g.primary
      let _ ← g.links false calleeStart (← bound) first false
      if ← atMark "(" then
        let _ ← g.callArguments
      return .leaf .construct (← spanFrom start)

/-- An operand with its members and calls. -/
def chainRule : Parse Expression := do
  let start ← here
  let first ← if ← atWord "new" then g.construction (← bound) else g.primary
  let (e, isOptional) ← g.links true start (← bound) first false
  if isOptional then return .leaf .other (← spanFrom start) else return e

end ComponentStyles.Script.Grammar
