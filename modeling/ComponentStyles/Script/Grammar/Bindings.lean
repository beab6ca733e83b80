import ComponentStyles.Script.Grammar.Basic

/-!
# Bindings and parameters

The targets of declarations, which may be patterns, and the parameters of functions.
-/

namespace ComponentStyles.Script.Grammar

open Parse

variable (g : Grammar)

/-- A type behind a colon, if types are allowed and there is one. -/
def optionalType : Parse Unit := do
  if (← isTyped) && (← atMark ":") then
    advance
    g.type

/-- A default behind an equals sign, if there is one; gives the start of the sign. -/
def optionalDefault : Parse (Option Nat) := do
  if ← atMark "=" then
    let start ← here
    advance
    let _ ← withIn (g.assignment true)
    return some start
  else return none

def bindingWithDefault : Parse Binding := do
  let b ← g.binding
  let _ ← g.optionalDefault
  return b

/-- A rest binding from its dots on. -/
def restBinding : Parse Binding := do
  expectMark "..."
  g.binding

def namesOf (bs : List Binding) : List Name :=
  bs.flatMap (·.names)

def arrayItem : Parse Binding := do
  if ← atMark "," then return { names := [], isPattern := false, start := ← here }
  else if ← atMark "..." then
    let b ← g.restBinding
    if ← atMark "," then note .restNotLast b.start
    return b
  else g.bindingWithDefault

/-- The name of a property: a name, string, number, or expression in brackets. -/
def propertyName : Parse Unit := do
  match ← kind with
  | .name .. | .string _ | .number _ | .bigint | .privateName => advance
  | .mark "[" =>
    advance
    let _ ← withIn (g.assignment true)
    expectMark "]"
  | _ => unexpected

/-- Whether the name at hand can stand alone in an object: it is a variable's name. -/
def atShorthand : Parse Bool := do
  if ← atVariable then return (← following).kind != .mark ":"
  else return false

def objectItem : Parse Binding := do
  if ← atMark "..." then
    let b ← g.restBinding
    if ← atMark "," then note .restNotLast b.start
    return b
  else if ← atShorthand then
    let name ← boundName
    let _ ← g.optionalDefault
    return { names := [name], isPattern := false, start := name.span.start }
  else
    g.propertyName
    expectMark ":"
    g.bindingWithDefault

/-- The target of a declaration: a name or a pattern. -/
def bindingRule : Parse Binding := do
  let start ← here
  match ← kind with
  | .mark "[" =>
    advance
    let items ← closedItems "]" g.arrayItem
    return { names := namesOf items, isPattern := true, start }
  | .mark "\x7b" =>
    advance
    let items ← closedItems "\x7d" g.objectItem
    return { names := namesOf items, isPattern := true, start }
  | _ =>
    let name ← boundName
    return { names := [name], isPattern := false, start }

/-! ## Parameters -/

/-- Words that a parameter of a constructor may begin with. -/
def parameterModifiers : List String :=
  ["public", "private", "protected", "readonly", "override"]

def skipModifiers (words : List String) : Nat → Parse Unit
  | 0 => throw .tooDeep
  | fuel + 1 => do
    match ← kind with
    | .name text false =>
      if words.contains text then
        let next ← following
        let goesOn :=
          match next.kind with
          | .name .. => true
          | .mark "[" | .mark "\x7b" => true
          | _ => false
        if goesOn && !next.onNewLine then
          advance
          skipModifiers words fuel
    | _ => return ()

def skipDecorators : Nat → Parse Unit
  | 0 => throw .tooDeep
  | fuel + 1 => do
    if ← atMark "@" then
      advance
      let _ ← g.chain
      skipDecorators fuel

def parameter : Parse Unit := do
  skipDecorators g (← bound)
  if ← isTyped then skipModifiers parameterModifiers 4
  if ← atMark "..." then
    let b ← g.restBinding
    g.optionalType
    if ← atMark "," then note .restNotLast b.start
  else if (← isTyped) && (← atWord "this") then
    advance
    g.optionalType
  else
    let _ ← g.binding
    if (← isTyped) && (← atMark "?") then advance
    g.optionalType
    let _ ← g.optionalDefault

/-- The parameters of a function in their parentheses. -/
def parameters : Parse Unit := do
  expectMark "("
  let _ ← closedItems ")" (withIn g.parameter)

end ComponentStyles.Script.Grammar
