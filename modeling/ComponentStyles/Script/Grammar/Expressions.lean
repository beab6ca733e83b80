import ComponentStyles.Script.Grammar.Operators

/-!
# Expressions

Assignments, conditionals, arrow functions and sequences. A parenthesis may begin the parameters of
an arrow function; mostly the tokens behind it tell, and where they do not, reading it as parameters
is tried first.
-/

namespace ComponentStyles.Script.Grammar

open Parse

variable (g : Grammar)

/-- What the tokens at hand tell about an arrow function. -/
inductive Likelihood where
  | no
  | maybe
  | yes
  deriving DecidableEq

def assignmentMarks : List String :=
  ["=", "+=", "-=", "*=", "/=", "%=", "**=", "<<=", ">>=", ">>>=", "&=", "|=", "^=", "&&=", "||=",
    "??="]

/-! ## Arrow functions -/

/-- The body of an arrow function from its arrow on. -/
def arrowFrom (start : Nat) (isAsync returnTypes : Bool) : Parse Expression := do
  if ← onNewLine then note .lineBreakBeforeArrow (← here)
  expectMark "=>"
  if ← atMark "\x7b" then
    let _ ← g.functionBody isAsync false
  else
    let _ ← within (inside isAsync false) (g.assignment returnTypes)
  return .leaf .arrow (← spanFrom start)

/-- Whether the token at hand could begin a parameter in parentheses, and what follows it. -/
def parameterLikelihood : Parse Likelihood := do
  match ← kind with
  | .mark ")" =>
    advance
    match ← kind with
    | .mark "=>" | .mark ":" | .mark "\x7b" => return .yes
    | _ => return .no
  | .mark "[" | .mark "\x7b" => return .maybe
  | .mark "..." => return .yes
  | .name text _ =>
    if !(← atVariable) && text ≠ "this" then return .no
    else
      let next ← following
      let isModifier := parameterModifiers.contains text
      match isModifier, next.kind with
      | true, .name word _ => return if word = "as" then .no else .yes
      | _, _ =>
        advance
        match ← kind with
        | .mark ":" => return .yes
        | .mark "?" =>
          advance
          match ← kind with
          | .mark ":" | .mark "," | .mark "=" | .mark ")" => return .yes
          | _ => return .no
        | .mark "," | .mark "=" | .mark ")" => return .maybe
        | _ => return .no
  | _ => return .no

/-- Whether type parameters, from their bracket on, begin an arrow function. -/
def typeParameterLikelihood : Parse Likelihood := do
  advance
  if !(← atVariable) && !(← atWord "const") then return .no
  else if ← isMarkup then
    let _ ← eatWord "const"
    advance
    match ← kind with
    | .mark "," | .mark "=" => return .yes
    | .name "extends" false =>
      advance
      match ← kind with
      | .mark "=" | .mark ">" | .mark "/" => return .no
      | _ => return .yes
    | _ => return .no
  else return .maybe

/-- Whether the tokens at hand begin an arrow function with its parameters in parentheses. -/
def arrowLikelihood : Parse Likelihood := do
  let typed ← isTyped
  let look : Parse Likelihood := do
    let isAsync ← eatWord "async"
    if isAsync && (← onNewLine) then return .no
    else if ← atMark "(" then
      advance
      parameterLikelihood
    else if typed && (← atMark "<") then typeParameterLikelihood
    else return .no
  match ← kind with
  | .mark "(" | .mark "<" | .name "async" false => return (← lookAhead look).getD .no
  | .mark "=>" => return .yes
  | _ => return .no

/-- An arrow function up to its arrow; gives whether it is asynchronous and has a return type. -/
def arrowHead : Parse (Bool × Bool) := do
  let isAsync ← eatWord "async"
  let hasReturnType ← within (fun a => { a with await := a.await || isAsync }) do
    g.optionalTypeParameters
    g.parameters
    g.optionalReturnType
  if ← atMark "=>" then return (isAsync, hasReturnType) else missing "=>"

/-- An arrow function whose parameters are in parentheses, if there is one. -/
def parenthesizedArrow (returnTypes : Bool) : Parse (Option Expression) := do
  let start ← here
  match ← arrowLikelihood with
  | .no => return none
  | .yes =>
    let (isAsync, _) ← g.arrowHead
    some <$> g.arrowFrom start isAsync true
  | .maybe =>
    let s ← get
    if s.notParameters.contains start then return none
    else
      match ← attempt (some <$> g.arrowHead) with
      | none =>
        modify fun s => { s with notParameters := start :: s.notParameters }
        return none
      | some (isAsync, hasReturnType) =>
        let e ← g.arrowFrom start isAsync returnTypes
        if hasReturnType && !returnTypes && !(← atMark ":") then
          set { s with notParameters := (← get).notParameters }
          return none
        else return some e

/-- An asynchronous arrow function with a single name as parameter, if there is one. -/
def asyncArrow (returnTypes : Bool) : Parse (Option Expression) := do
  let start ← here
  if ← atWord "async" then
    let isArrow ← ahead do
      advance
      if (← onNewLine) || !(← atVariable) then return false
      else
        advance
        return (← atMark "=>") && !(← onNewLine)
    if isArrow then
      advance
      advance
      some <$> g.arrowFrom start true returnTypes
    else return none
  else return none

/-! ## Assignments -/

/-- Whether `yield` at hand begins an expression of its own. -/
def atYield : Parse Bool := do
  if ← atWord "yield" then
    if (← around).yield then return true
    else
      let next ← following
      match next.kind with
      | .name .. | .string _ | .number _ | .bigint | .template .. => return !next.onNewLine
      | _ => return false
  else return false

def yieldExpression : Parse Expression := do
  let start ← here
  expectWord "yield"
  if !(← around).yield then note .yieldOutsideGenerator start
  if !(← onNewLine) then
    let isDelegated ← eatMark "*"
    let ends ←
      match ← kind with
      | .mark m => pure ([")", "]", "\x7d", ",", ";", ":"].contains m)
      | .name "in" false | .endOfText => pure true
      | _ => pure false
    if isDelegated || !ends then
      let _ ← g.assignment true
  return .leaf .other (← spanFrom start)

/-- The branches of a conditional, if its condition is followed by any. -/
def conditionalFrom (start : Nat) (condition : Expression) (returnTypes : Bool) :
    Parse Expression := do
  if ← eatMark "?" then
    let _ ← withIn (g.assignment false)
    expectMark ":"
    let _ ← g.assignment returnTypes
    return .leaf .conditional (← spanFrom start)
  else return condition

def assignmentRule (returnTypes : Bool) : Parse Expression := do
  let start ← here
  if ← atYield then g.yieldExpression
  else
    match ← g.parenthesizedArrow returnTypes with
    | some e => return e
    | none =>
      match ← g.asyncArrow returnTypes with
      | some e => return e
      | none =>
        let left ← g.operators 0
        match left, ← kind with
        | .identifier _, .mark "=>" => g.arrowFrom start false returnTypes
        | _, .mark m =>
          if assignmentMarks.contains m then
            let target ← if m = "=" then left.target else left.simpleTarget
            advance
            let value ← g.assignment returnTypes
            return .assignment (← spanFrom start) m target value
          else g.conditionalFrom start left returnTypes
        | _, _ => g.conditionalFrom start left returnTypes

def expressionRule : Parse Expression := do
  let start ← here
  let first ← g.assignment true
  if ← atMark "," then
    let _ ← repeatWhile (eatMark ",") (g.assignment true) (← bound)
    return .leaf .sequence (← spanFrom start)
  else return first

end ComponentStyles.Script.Grammar
