import ComponentStyles.Script.Grammar.Bindings

/-!
# Types

The types of the typed dialect. Nothing of a type is kept, so its rules only move the reader over
it.
-/

namespace ComponentStyles.Script.Grammar

open Parse

variable (g : Grammar)

/-- Whether an opening angle bracket is at hand, alone or as the start of a longer mark. -/
def atAngle : Parse Bool := do
  return (← atMark "<") || (← atMark "<<")

/-- Goes on over an opening angle bracket. -/
def openAngle : Parse Unit := do
  if ← atMark "<<" then reread openAngleLexeme
  expectMark "<"

def typeArguments : Parse Unit := do
  openAngle
  let _ ← closedItems ">" g.type

/-- Type arguments if there are any on this line. -/
def optionalTypeArguments : Parse Unit := do
  if (← atAngle) && !(← onNewLine) then g.typeArguments

def typeParameter : Parse Unit := do
  skipModifiers ["const", "in", "out"] 4
  let _ ← anyName
  if ← eatWord "extends" then g.type
  if ← eatMark "=" then g.type

/-- Type parameters in their angle brackets, if types are allowed and there are any. -/
def optionalTypeParameters : Parse Unit := do
  if (← isTyped) && (← atAngle) then
    openAngle
    let _ ← closedItems ">" g.typeParameter

/-- A type, or a statement about a parameter, that a function returns. -/
def returnType : Parse Unit := do
  let next ← following
  if (← atWord "asserts") && !next.onNewLine &&
      (match next.kind with | .name text _ => text ≠ "is" | _ => false) then
    advance
    let _ ← anyName
    if (← atWord "is") && !(← onNewLine) then
      advance
      g.type
  else if (← atAnyName) && next.kind == .name "is" false && !next.onNewLine then
    advance
    advance
    g.type
  else g.type

/-- A return type behind a colon, if types are allowed and there is one. -/
def optionalReturnType : Parse Bool := do
  if (← isTyped) && (← atMark ":") then
    advance
    g.returnType
    return true
  else return false

/-- Whether a parenthesis begins the parameters of a function type. -/
def atFunctionType : Parse Bool := do
  if ← atAngle then return true
  else if ← atMark "(" then
    ahead do
      advance
      if (← atMark ")") || (← atMark "...") then return true
      else
        if ← isTyped then skipModifiers parameterModifiers 4
        if ← atWord "this" then advance
        else
          let _ ← g.binding
        match ← kind with
        | .mark ":" | .mark "," | .mark "?" | .mark "=" => return true
        | .mark ")" =>
          advance
          atMark "=>"
        | _ => return false
  else return false

/-- The type of a function behind its keywords. -/
def functionType : Parse Unit := do
  g.optionalTypeParameters
  g.parameters
  expectMark "=>"
  g.returnType

def dottedName : Nat → Parse Unit
  | 0 => throw .tooDeep
  | fuel + 1 => do
    let _ ← anyName
    if ← eatMark "." then dottedName fuel

def tupleElement : Parse Unit := do
  let _ ← eatMark "..."
  let isNamed ← ahead do
    let _ ← anyName
    let _ ← eatMark "?"
    atMark ":"
  if isNamed then
    let _ ← anyName
    let _ ← eatMark "?"
    expectMark ":"
  g.type
  let _ ← eatMark "?"

/-- The rest of a template type: types and parts in turn. -/
def templateTypes : Nat → Parse Unit
  | 0 => throw .tooDeep
  | fuel + 1 => do
    g.type
    if ← atMark "\x7d" then reread templateLexeme
    match ← kind with
    | .template isLast _ =>
      advance
      if isLast then return () else templateTypes fuel
    | _ => missing "\x7d"

/-- Ends a member of an object type. -/
def memberEnd : Parse Unit := do
  if (← eatMark ";") || (← eatMark ",") then return ()
  else if (← atMark "\x7d") || (← onNewLine) then return ()
  else semicolon

/-- The parameters and return type of a signature. -/
def signature : Parse Unit := do
  g.optionalTypeParameters
  g.parameters
  let _ ← g.optionalReturnType

/-- Whether a bracket begins an index signature: a name and a colon follow. -/
def atIndexSignature : Parse Bool := do
  if ← atMark "[" then
    ahead do
      advance
      let _ ← anyName
      return (← atMark ":") || (← atMark ",")
  else return false

def indexSignature : Parse Unit := do
  expectMark "["
  let _ ← closedItems "]" do
    let _ ← anyName
    g.optionalType
  g.optionalType

/-- Whether the word at hand is a modifier, not itself the name of a member. -/
def atMemberModifier (word : String) : Parse Bool := do
  if ← atWord word then
    match (← following).kind with
    | .name .. | .string _ | .number _ | .bigint | .privateName => return true
    | .mark "[" | .mark "*" | .mark "\x7b" => return true
    | _ => return false
  else return false

def typeMember : Parse Unit := do
  if (← atMark "(") || (← atAngle) then g.signature
  else if (← atWord "new") &&
      (match (← following).kind with | .mark "(" | .mark "<" => true | _ => false) then
    advance
    g.signature
  else
    if ← atMemberModifier "readonly" then advance
    if ← atIndexSignature then g.indexSignature
    else
      if (← atMemberModifier "get") || (← atMemberModifier "set") then advance
      g.propertyName
      let _ ← eatMark "?"
      if (← atMark "(") || (← atAngle) then g.signature else g.optionalType
  memberEnd

/-- The members of an object type in their braces. -/
def typeMembers : Parse Unit := do
  expectMark "\x7b"
  let more : Parse Bool := return !(← atListEnd "\x7d")
  let _ ← repeatWhile more g.typeMember (← bound)
  expectMark "\x7d"

/-- Whether a brace begins a mapped type. -/
def atMappedType : Parse Bool :=
  ahead do
    expectMark "\x7b"
    if (← atMark "+") || (← atMark "-") then
      advance
      atWord "readonly"
    else
      let _ ← eatWord "readonly"
      expectMark "["
      let _ ← anyName
      atWord "in"

def mappedType : Parse Unit := do
  expectMark "\x7b"
  if (← atMark "+") || (← atMark "-") then advance
  let _ ← eatWord "readonly"
  expectMark "["
  let _ ← anyName
  expectWord "in"
  g.type
  if ← eatWord "as" then g.type
  expectMark "]"
  if (← atMark "+") || (← atMark "-") then advance
  let _ ← eatMark "?"
  g.optionalType
  let _ ← eatMark ";"
  expectMark "\x7d"

def importType : Parse Unit := do
  expectWord "import"
  expectMark "("
  g.type
  if ← eatMark "," then
    if !(← atMark ")") then
      let _ ← g.assignment true
      let _ ← eatMark ","
  expectMark ")"
  if ← eatMark "." then dottedName (← bound)
  g.optionalTypeArguments

def simpleType : Parse Unit := do
  match ← kind with
  | .mark "(" =>
    advance
    within (fun a => { a with conditionalTypes := true }) g.type
    expectMark ")"
  | .mark "[" =>
    advance
    let _ ← closedItems "]" g.tupleElement
  | .mark "\x7b" => if ← atMappedType then g.mappedType else g.typeMembers
  | .string _ | .number _ | .bigint => advance
  | .mark "-" =>
    advance
    match ← kind with
    | .number _ | .bigint => advance
    | _ => unexpected
  | .template isLast _ =>
    advance
    if !isLast then g.templateTypes (← bound)
  | .name "typeof" false =>
    advance
    if ← atWord "import" then g.importType
    else
      dottedName (← bound)
      g.optionalTypeArguments
  | .name "import" false => g.importType
  | .name "this" false =>
    advance
  | .name "void" false | .name "null" false | .name "true" false | .name "false" false
  | .name "const" false => advance
  | .name text _ =>
    if reservedWords.contains text then unexpected
    else
      dottedName (← bound)
      g.optionalTypeArguments
  | _ => unexpected

def typeBrackets : Nat → Parse Unit
  | 0 => throw .tooDeep
  | fuel + 1 => do
    if (← atMark "[") && !(← onNewLine) then
      advance
      if !(← atMark "]") then g.type
      expectMark "]"
      typeBrackets fuel
    else if (← atMark "!") && !(← onNewLine) then
      advance
      typeBrackets fuel

def prefixedType : Nat → Parse Unit
  | 0 => throw .tooDeep
  | fuel + 1 => do
    let isOperand : Parse Bool := do
      match (← following).kind with
      | .name .. | .string _ | .number _ | .template .. => return true
      | .mark "(" | .mark "[" | .mark "\x7b" => return true
      | _ => return false
    if ((← atWord "keyof") || (← atWord "unique") || (← atWord "readonly")) && (← isOperand) then
      advance
      prefixedType fuel
    else if (← atWord "infer") && (← isOperand) then
      advance
      let _ ← anyName
      let _ ← attempt do
        expectWord "extends"
        within (fun a => { a with conditionalTypes := false }) g.type
        if (← around).conditionalTypes && (← atMark "?") then return none
        else return some ()
    else
      g.simpleType
      g.typeBrackets (← bound)

/-- Types joined by a mark, which may also stand before the first of them. -/
def joinedTypes (mark : String) (item : Parse Unit) : Nat → Parse Unit
  | 0 => throw .tooDeep
  | fuel + 1 => do
    let _ ← eatMark mark
    item
    if ← atMark mark then joinedTypes mark item fuel

def unionType : Parse Unit := do
  let fuel ← bound
  joinedTypes "|" (joinedTypes "&" (g.prefixedType fuel) fuel) fuel

def typeRule : Parse Unit := do
  if ← g.atFunctionType then g.functionType
  else if ← atWord "new" then
    advance
    g.functionType
  else if (← atWord "abstract") && (← following).kind == .name "new" false then
    advance
    advance
    g.functionType
  else
    g.unionType
    if (← around).conditionalTypes && (← atWord "extends") && !(← onNewLine) then
      advance
      within (fun a => { a with conditionalTypes := false }) g.type
      expectMark "?"
      within (fun a => { a with conditionalTypes := true }) g.type
      expectMark ":"
      within (fun a => { a with conditionalTypes := true }) g.type

end ComponentStyles.Script.Grammar
