import ComponentStyles.Script.Grammar.Literals

/-!
# Markup

Elements and fragments of markup in a script, with their attributes and children.
-/

namespace ComponentStyles.Script.Grammar

open Parse

variable (g : Grammar)

/-- Goes on over the bracket that ends a tag: to markup text where the tag stands among children or
has some itself. -/
def tagEnd (isChild : Bool) : Parse Unit := do
  if ← atMark ">" then
    if isChild then advanceWith markupChildLexeme else advance
  else missing ">"

/-- A part of a name in markup. -/
def markupWord : Parse String := do
  match ← kind with
  | .name .. =>
    reread markupNameLexeme
    match ← kind with
    | .name text _ =>
      advance
      return text
    | _ => unexpected
  | _ => unexpected

/-- The further parts of the name of an element. -/
def markupNameRest : Nat → Parse String
  | 0 => throw .tooDeep
  | fuel + 1 => do
    if ← eatMark "." then
      let word ← markupWord
      return "." ++ word ++ (← markupNameRest fuel)
    else return ""

def markupName : Parse String := do
  let first ← markupWord
  if ← eatMark ":" then return first ++ ":" ++ (← markupWord)
  else return first ++ (← markupNameRest (← bound))

/-- An expression between braces, as the value of an attribute. -/
def attributeExpression : Parse Unit := do
  expectMark "\x7b"
  let _ ← withIn g.expression
  expectMark "\x7d"

def markupAttribute : Parse Unit := do
  if ← eatMark "\x7b" then
    expectMark "..."
    let _ ← withIn (g.assignment true)
    expectMark "\x7d"
  else
    let _ ← markupWord
    if ← eatMark ":" then
      let _ ← markupWord
    if ← atMark "=" then
      advanceWith markupValueLexeme
      match ← kind with
      | .string _ => advance
      | .mark "\x7b" => g.attributeExpression
      | .mark "<" => g.markup false
      | _ => unexpected

/-- A child between braces: an expression, several of them, or only comments. -/
def childExpression : Parse Unit := do
  expectMark "\x7b"
  if ← eatMark "..." then
    let _ ← withIn (g.assignment true)
  else if !(← atMark "\x7d") then
    let _ ← withIn g.expression
  if ← atMark "\x7d" then advanceWith markupChildLexeme else missing "\x7d"

/-- Whether a closing tag is at hand. -/
def atClosingTag : Parse Bool := do
  return (← atMark "<") && (← following).kind == .mark "/"

def children : Nat → Parse Unit
  | 0 => throw .tooDeep
  | fuel + 1 => do
    if ← atMark "\x7b" then
      g.childExpression
      children fuel
    else if ← atClosingTag then return ()
    else if ← atMark "<" then
      g.markup true
      children fuel
    else unexpected

/-- A closing tag up to its last bracket; gives its name, which fragments lack. -/
def closingTag : Parse (Option String) := do
  expectMark "<"
  expectMark "/"
  if ← atMark ">" then return none else return some (← markupName)

/-- The children and the closing tag of an element or fragment, from the end of its opening tag. -/
def markupRest (isChild : Bool) (name : Option String) : Parse Unit := do
  tagEnd true
  g.children (← bound)
  let start ← here
  let closing ← closingTag
  if closing ≠ name then
    match name with
    | some n => failAt (.closingTagMismatch n) start
    | none => failAt .closingFragmentMismatch start
  tagEnd isChild

def markupRule (isChild : Bool) : Parse Unit := do
  expectMark "<"
  if ← atMark ">" then g.markupRest isChild none
  else
    let name ← markupName
    if ← isTyped then g.optionalTypeArguments
    let more : Parse Bool := return !(← atMark "/") && !(← atMark ">") && !(← atEnd)
    let _ ← repeatWhile more g.markupAttribute (← bound)
    if ← eatMark "/" then tagEnd isChild else g.markupRest isChild (some name)

end ComponentStyles.Script.Grammar
