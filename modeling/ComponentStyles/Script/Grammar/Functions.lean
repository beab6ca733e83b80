import ComponentStyles.Script.Grammar.Types

/-!
# Functions, blocks and classes

Bodies of functions and classes. Of a function only its head is kept, and of a class only its span.
-/

namespace ComponentStyles.Script.Grammar

open Parse

variable (g : Grammar)

/-- The statements up to a closing brace. -/
def statements : Parse (List Statement) := do
  let more : Parse Bool := return !(← atMark "\x7d") && !(← atEnd)
  repeatWhile more (g.statement false) (← bound)

def block : Parse Span := do
  let start ← here
  expectMark "\x7b"
  let _ ← g.statements
  expectMark "\x7d"
  spanFrom start

/-- The surroundings of the inside of a function. -/
def inside (isAsync isGenerator : Bool) (a : Surroundings) : Surroundings :=
  { a with await := isAsync, yield := isGenerator }

def functionBody (isAsync isGenerator : Bool) : Parse Span :=
  within
    (fun a => { inside isAsync isGenerator a with inOperator := true, returns := true })
    g.block

/-- Parameters and return type of a function. -/
def functionSignature (isAsync isGenerator : Bool) : Parse Unit :=
  within (inside isAsync isGenerator) g.signature

/-- The body of a function, which signatures of the typed dialect lack. -/
def optionalBody (isAsync isGenerator : Bool) : Parse (Option Span) := do
  if ← atMark "\x7b" then return some (← g.functionBody isAsync isGenerator)
  else if ← isTyped then
    semicolon
    return none
  else missing "\x7b"

/-- The name of a function, where it has one. -/
def functionName (isExpression needsName isAsync isGenerator : Bool) : Parse (Option Name) := do
  let isName ← within (fun a => if isExpression then inside isAsync isGenerator a else a) atVariable
  if isName then return some (← anyName)
  else if ← atMark "(" then
    if needsName then note .missingFunctionName (← here)
    return none
  else if (← isTyped) && (← atAngle) && !needsName then return none
  else unexpected

/-- A function from its keyword on; it starts where its modifiers do. -/
def functionFrom (start : Nat) (isAsync isExpression needsName : Bool) : Parse FunctionPart := do
  expectWord "function"
  let isGenerator ← eatMark "*"
  let id ← functionName isExpression needsName isAsync isGenerator
  g.functionSignature isAsync isGenerator
  let body ← g.optionalBody isAsync isGenerator
  return { span := ← spanFrom start, id, body, isAsync, isGenerator }

def method (isAsync isGenerator : Bool) : Parse Unit := do
  g.functionSignature isAsync isGenerator
  let _ ← g.functionBody isAsync isGenerator

/-! ## Classes -/

/-- The modifiers of a class member; gives whether it is asynchronous. -/
def skipMemberModifiers : Nat → Bool → Parse Bool
  | 0, isAsync => return isAsync
  | fuel + 1, isAsync => do
    let next ← following
    if (← atMemberModifier "async") && !next.onNewLine then
      advance
      skipMemberModifiers fuel true
    else if next.kind != .mark "\x7b" &&
        ((← atMemberModifier "static") ||
          ((← atMemberModifier "accessor") && !next.onNewLine)) then
      advance
      skipMemberModifiers fuel isAsync
    else
      let words :=
        ["declare", "abstract", "override", "readonly", "public", "private", "protected"]
      match ← kind with
      | .name text false =>
        if (← isTyped) && words.contains text && (← atMemberModifier text) && !next.onNewLine then
          advance
          skipMemberModifiers fuel isAsync
        else return isAsync
      | _ => return isAsync

def classMember : Parse Unit := do
  if ← eatMark ";" then return ()
  skipDecorators g (← bound)
  if (← atWord "static") && (← following).kind == .mark "\x7b" then
    advance
    let _ ← within (fun a => { inside true false a with inOperator := true }) g.block
  else
    let isAsync ← skipMemberModifiers 8 false
    let isGenerator ← eatMark "*"
    if (← isTyped) && !isGenerator && (← atIndexSignature) then
      g.indexSignature
      semicolon
    else
      let next ← following
      if !isGenerator && ((← atMemberModifier "get") || (← atMemberModifier "set")) &&
          next.kind != .mark "*" then advance
      g.propertyName
      if ← isTyped then
        if ← eatMark "?" then pure ()
        else if ← eatMark "!" then pure ()
      if (← atMark "(") || ((← isTyped) && (← atAngle)) then
        g.functionSignature isAsync isGenerator
        let _ ← g.optionalBody isAsync isGenerator
      else
        g.optionalType
        if ← eatMark "=" then
          let _ ← within (fun a => { inside false false a with inOperator := true })
            (g.assignment true)
        semicolon

/-- A type that a class extends or implements. -/
def heritage : Parse Unit := do
  let _ ← g.chain
  if ← isTyped then g.optionalTypeArguments

/-- A class from its keyword on; it starts where its modifiers do. -/
def classFrom (start : Nat) : Parse (Option Name × Span) := do
  expectWord "class"
  let isName ← do
    if ← atVariable then
      if ← atWord "implements" then
        match (← following).kind with
        | .name .. => pure false
        | _ => pure true
      else pure true
    else pure false
  let id ← if isName then some <$> anyName else pure none
  g.optionalTypeParameters
  if ← eatWord "extends" then g.heritage
  if (← isTyped) && (← eatWord "implements") then
    let more : Parse Bool := eatMark ","
    g.type
    let _ ← repeatWhile more g.type (← bound)
  expectMark "\x7b"
  let more : Parse Bool := return !(← atMark "\x7d") && !(← atEnd)
  let _ ← repeatWhile more g.classMember (← bound)
  expectMark "\x7d"
  return (id, ← spanFrom start)

end ComponentStyles.Script.Grammar
