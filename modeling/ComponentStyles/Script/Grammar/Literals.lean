import ComponentStyles.Script.Grammar.Functions

/-!
# Arrays, objects and templates
-/

namespace ComponentStyles.Script.Grammar

open Parse

variable (g : Grammar)

/-- An element or argument that may be spread. -/
def element : Parse Element := do
  let start ← here
  if ← eatMark "..." then
    let value ← withIn (g.assignment true)
    return .spread (← spanFrom start) value
  else return .item (← withIn (g.assignment true))

/-- An element of an array, which may be left out. -/
def arrayElement : Parse Element := do
  if ← atMark "," then return .hole (← get).token.span else g.element

def arrayLiteral : Parse Expression := do
  let start ← here
  expectMark "["
  let elements ← closedItems "]" g.arrayElement
  return .array (← spanFrom start) elements

def callArguments : Parse (List Element) := do
  expectMark "("
  closedItems ")" g.element

/-- A property that is a name alone, perhaps with a default. -/
def shorthand : Parse Property := do
  let name ← usedName
  let default ← g.optionalDefault
  match default with
  | some start =>
    modify fun s => { s with defaults := (name.span.start, start) :: s.defaults }
  | none => pure ()
  return .shorthand (← spanFrom name.span.start) default

/-- Whether the name at hand is that of a variable and nothing follows that gives it a value. -/
def atShorthandProperty : Parse Bool := do
  if ← atVariable then
    match (← following).kind with
    | .mark ":" | .mark "(" | .mark "<" => return false
    | _ => return true
  else return false

def property : Parse Property := do
  let start ← here
  if ← eatMark "..." then return .spread (← withIn (g.assignment true))
  else if ← eatMark "*" then
    g.propertyName
    g.method false true
    return .method (← spanFrom start)
  else if ((← atMemberModifier "get") || (← atMemberModifier "set")) &&
      (← following).kind != .mark "*" then
    advance
    g.propertyName
    g.method false false
    return .method (← spanFrom start)
  else if (← atMemberModifier "async") && !(← following).onNewLine then
    advance
    let isGenerator ← eatMark "*"
    g.propertyName
    g.method true isGenerator
    return .method (← spanFrom start)
  else if ← atShorthandProperty then g.shorthand
  else
    g.propertyName
    if (← atMark "(") || (← atMark "<") then
      g.method false false
      return .method (← spanFrom start)
    else
      expectMark ":"
      return .keyed (← withIn (g.assignment true))

def objectLiteral : Parse Expression := do
  let start ← here
  expectMark "\x7b"
  let properties ← closedItems "\x7d" g.property
  return .object (← spanFrom start) properties

/-- Notes a part of a template whose escapes are allowed only behind a tag. -/
def checkPart (isTagged isValid : Bool) : Parse Unit := do
  if !isTagged && !isValid then note .invalidTemplateEscape (← here)

/-- The rest of a template behind one of its parts: expressions and parts in turn. -/
def templateRest (isTagged : Bool) : Nat → Parse Unit
  | 0 => throw .tooDeep
  | fuel + 1 => do
    let _ ← withIn g.expression
    if ← atMark "\x7d" then reread templateLexeme
    match ← kind with
    | .template isLast isValid =>
      checkPart isTagged isValid
      advance
      if isLast then return () else templateRest isTagged fuel
    | .invalid => unexpected
    | _ => missing "\x7d"

def template (isTagged : Bool) : Parse Unit := do
  match ← kind with
  | .template isLast isValid =>
    checkPart isTagged isValid
    advance
    if !isLast then g.templateRest isTagged (← bound)
  | _ => unexpected

end ComponentStyles.Script.Grammar
