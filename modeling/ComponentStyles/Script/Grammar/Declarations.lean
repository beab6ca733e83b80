import ComponentStyles.Script.Grammar.Expressions

/-!
# Declarations

Variables, functions, classes, and the declarations of the typed dialect. A declaration comes with
the names it declares.
-/

namespace ComponentStyles.Script.Grammar

open Parse

variable (g : Grammar)

/-! ## Variables -/

/-- Notes a constant or a pattern that has no value. -/
def noteMissing (isConst : Bool) (b : Binding) : Parse Unit := do
  if isConst then note .missingConstValue b.start
  else if b.isPattern then note .missingPatternValue b.start

/-- A binding with its type and value; the flag says whether it must have a value where it is a
constant or a pattern. -/
def declarator (isConst needsValue : Bool) : Parse Binding := do
  let b ← g.binding
  if (← isTyped) && !b.isPattern then
    let _ ← eatMark "!"
  g.optionalType
  if ← eatMark "=" then
    let _ ← g.assignment true
  else if needsValue && !(← around).ambient then
    noteMissing isConst b
  return b

/-- The declarators behind the word that begins a declaration. -/
def declarators (isConst needsValue : Bool) : Parse (List Binding) := do
  let first ← g.declarator isConst needsValue
  let rest ← repeatWhile (eatMark ",") (g.declarator isConst needsValue) (← bound)
  return first :: rest

/-- A declaration of variables from its word on. -/
def variableDeclaration (start : Nat) : Parse (Declaration × List Name) := do
  let isConst ← atWord "const"
  advance
  let bs ← g.declarators isConst true
  semicolon
  return (.leaf .variable (← spanFrom start), namesOf bs)

/-! ## Declarations of the typed dialect -/

def interfaceRest : Parse Unit := do
  let _ ← boundName
  g.optionalTypeParameters
  if ← eatWord "extends" then
    g.heritage
    let _ ← repeatWhile (eatMark ",") g.heritage (← bound)
  g.typeMembers

/-- A name for a type behind its word. -/
def aliasRest : Parse Unit := do
  let _ ← boundName
  g.optionalTypeParameters
  expectMark "="
  g.type
  semicolon

def enumMember : Parse Unit := do
  g.propertyName
  let _ ← g.optionalDefault

def enumRest : Parse Unit := do
  let _ ← boundName
  expectMark "\x7b"
  let _ ← closedItems "\x7d" g.enumMember

def namespaceRest : Parse Unit := do
  match ← kind with
  | .string _ => advance
  | _ => dottedName (← bound)
  if ← atMark "\x7b" then
    let _ ← g.block
  else semicolon

/-- Whether a declaration of the typed dialect begins here. -/
def atTypedDeclaration : Parse Bool := do
  if !(← isTyped) then return false
  else
    let next ← following
    let named : Bool :=
      match next.kind with
      | .name .. => !next.onNewLine
      | _ => false
    match ← kind with
    | .name "enum" false => return true
    | .name "const" false => return next.kind == .name "enum" false
    | .name "interface" false | .name "type" false => return named
    | .name "namespace" false | .name "module" false =>
      match next.kind with
      | .string _ => return !next.onNewLine
      | _ => return named
    | .name "abstract" false => return next.kind == .name "class" false && named
    | .name "global" false => return next.kind == .mark "\x7b"
    | .name "declare" false =>
      match next.kind with
      | .name word _ =>
        return named &&
          ["const", "let", "var", "function", "async", "class", "abstract", "interface", "type",
            "namespace", "module", "enum", "global"].contains word
      | _ => return false
    | _ => return false

/-- The span of a declaration of which nothing else is kept. -/
def otherDeclaration (start : Nat) (rest : Parse Unit) : Parse (Declaration × List Name) := do
  rest
  return (.leaf .other (← spanFrom start), [])

/-- A declaration from its word on, behind its modifiers; it starts where they do. -/
def declarationFrom (start : Nat) : Parse (Declaration × List Name) := do
  match ← kind with
  | .name "const" false =>
    if (← isTyped) && (← following).kind == .name "enum" false then
      otherDeclaration start do
        advance
        advance
        g.enumRest
    else g.variableDeclaration start
  | .name "var" false | .name "let" false => g.variableDeclaration start
  | .name "function" false =>
    let f ← g.functionFrom start false false true
    return (.function f, f.id.toList)
  | .name "async" false =>
    advance
    let f ← g.functionFrom start true false true
    return (.function f, f.id.toList)
  | .name "class" false =>
    let (id, span) ← g.classFrom start
    return (.leaf .classDecl span, id.toList)
  | .name word false =>
    otherDeclaration start do
      advance
      match word with
      | "interface" => g.interfaceRest
      | "type" => g.aliasRest
      | "enum" => g.enumRest
      | "namespace" | "module" => g.namespaceRest
      | "global" =>
        let _ ← g.block
      | _ => unexpected
  | _ => unexpected

def declaration : Parse (Declaration × List Name) := do
  let start ← here
  if (← isTyped) && (← atWord "declare") then
    advance
    within (fun a => { a with ambient := true }) do
      let _ ← eatWord "abstract"
      g.declarationFrom start
  else
    if ← isTyped then
      let _ ← eatWord "abstract"
    g.declarationFrom start

def toStatement : Declaration → Statement
  | .function f => .function f
  | .leaf .variable span => .leaf .variable span
  | .leaf .classDecl span => .leaf .classDecl span
  | .leaf .other span => .leaf .other span

end ComponentStyles.Script.Grammar
