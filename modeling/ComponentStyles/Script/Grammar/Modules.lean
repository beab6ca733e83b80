import ComponentStyles.Script.Grammar.Declarations

/-!
# Imports and exports
-/

namespace ComponentStyles.Script.Grammar

open Parse

variable (g : Grammar)

def noteExport (name : String) (offset : Nat) : Parse Unit :=
  modify fun s => { s with exports := (name, offset) :: s.exports }

def moduleSource : Parse StringPart := do
  match ← get with
  | { token := { kind := .string value, span, .. }, .. } =>
    advance
    return { value, span }
  | _ => unexpected

/-- An attribute of an import: a key and a string. -/
def importAttribute : Parse Unit := do
  match ← kind with
  | .name .. | .string _ => advance
  | _ => unexpected
  expectMark ":"
  match ← kind with
  | .string _ => advance
  | _ => unexpected

/-- The attributes of an import, if it has any. -/
def importAttributes : Parse Unit := do
  if (← atWord "with") || ((← atWord "assert") && !(← onNewLine)) then
    advance
    expectMark "\x7b"
    let _ ← closedItems "\x7d" importAttribute

/-- The name of something that a module exports, which may be any string. -/
def exportedName : Parse Name := do
  match ← get with
  | { token := { kind := .string value, span, .. }, .. } =>
    advance
    return { text := value, span }
  | _ => anyName

/-- Whether `type` at hand says that an import or export is of a type only, and is not itself a
name. -/
def atTypeOnly : Parse Bool := do
  if (← isTyped) && (← atWord "type") then
    match (← following).kind with
    | .string _ => return true
    | .name "as" _ =>
      ahead do
        advance
        advance
        if ← atWord "as" then
          advance
          atAnyName
        else return !(← atAnyName)
    | .name .. => return true
    | _ => return false
  else return false

/-- One of the things that an import names in braces. -/
def importItem : Parse ImportPart := do
  let start ← here
  if ← atTypeOnly then advance
  let isString :=
    match ← kind with
    | .string _ => true
    | _ => false
  let isAlone := (← following).kind != .name "as" false
  if isAlone && !isString then
    let name ← boundName
    return .namedImport (← spanFrom start) name name
  else
    let imported ← exportedName
    expectWord "as"
    let bound ← boundName
    return .namedImport (← spanFrom start) imported bound

/-- All that a module exports, under one name. -/
def importAll : Parse ImportPart := do
  let start ← here
  expectMark "*"
  expectWord "as"
  let bound ← boundName
  return .namespaceImport (← spanFrom start) bound

/-- What an import binds besides the default. -/
def importNames : Parse (List ImportPart) := do
  if ← atMark "*" then return [← importAll]
  else
    expectMark "\x7b"
    closedItems "\x7d" importItem

/-- The end of an import from its source on. -/
def importEnd (start : Nat) (parts : List ImportPart) : Parse Statement := do
  let source ← moduleSource
  importAttributes
  semicolon
  return .importDeclaration (← spanFrom start) source parts

/-- What an import binds, up to its source. -/
def importClause : Parse (List ImportPart) := do
  if (← atMark "*") || (← atMark "\x7b") then importNames
  else
    let start ← here
    let bound ← boundName
    let first := ImportPart.defaultImport (← spanFrom start) bound
    if ← eatMark "," then return first :: (← importNames) else return [first]

/-- An import that gives another name to a part of a namespace or to a required module, from its
equals sign on. -/
def importEquals (start : Nat) : Parse Statement := do
  expectMark "="
  if (← atWord "require") && (← following).kind == .mark "(" then
    advance
    expectMark "("
    let _ ← moduleSource
    expectMark ")"
  else dottedName (← bound)
  semicolon
  return .leaf .other (← spanFrom start)

/-- Skips a word that says how the module is imported, where it is not the name of the import. -/
def skipImportPhase : Parse Unit := do
  let next ← following
  let isName : Bool :=
    match next.kind with
    | .name text _ => text ≠ "from"
    | _ => false
  if ← isTyped then
    if (← atWord "type") && (isName || next.kind == .mark "*" || next.kind == .mark "\x7b") then
      advance
  if ((← atWord "defer") && next.kind == .mark "*") || ((← atWord "source") && isName) then advance

def importStatement : Parse Statement := do
  let start ← here
  expectWord "import"
  match ← kind with
  | .string _ => importEnd start []
  | _ =>
    skipImportPhase
    if (← isTyped) && (← following).kind == .mark "=" then
      let _ ← boundName
      importEquals start
    else
      let parts ← importClause
      expectWord "from"
      importEnd start parts

/-! ## Exports -/

/-- One of the names that an export lists; gives the name inside and notes the one outside. -/
def exportItem : Parse (Name × Bool) := do
  if ← atTypeOnly then advance
  let isString :=
    match ← kind with
    | .string _ => true
    | _ => false
  let inner ← exportedName
  let outer ← if ← eatWord "as" then exportedName else pure inner
  noteExport outer.text outer.span.start
  return (inner, isString)

/-- An export of listed names from its brace on. -/
def exportNames (start : Nat) : Parse Statement := do
  expectMark "\x7b"
  let items ← closedItems "\x7d" exportItem
  let source ←
    if ← eatWord "from" then
      let source ← moduleSource
      importAttributes
      pure (some source)
    else
      match items.find? fun (inner, isString) => isString || reservedWords.contains inner.text with
      | some (inner, isString) =>
        if isString then failAt .unexpectedToken inner.span.start
        else failAt (.reservedName inner.text) inner.span.start
      | none => pure none
  semicolon
  return .exportNamed (← spanFrom start) none source

/-- An export of all that another module exports, from its star on. -/
def exportAll (start : Nat) : Parse Statement := do
  expectMark "*"
  if ← eatWord "as" then
    let name ← exportedName
    noteExport name.text name.span.start
  expectWord "from"
  let _ ← moduleSource
  importAttributes
  semicolon
  return .leaf .exportAll (← spanFrom start)

/-- Whether a function that is asynchronous begins here. -/
def atAsyncFunction : Parse Bool := do
  let next ← following
  return (← atWord "async") && next.kind == .name "function" false && !next.onNewLine

def defaultExport : Parse DefaultExport := do
  let start ← here
  let next ← following
  if ← atMark "@" then
    skipDecorators g (← bound)
    let _ ← eatWord "abstract"
    let (_, span) ← g.classFrom start
    return .classDecl span
  else if ← atWord "class" then
    let (_, span) ← g.classFrom start
    return .classDecl span
  else if ← atWord "function" then return .function (← g.functionFrom start false false false)
  else if ← atAsyncFunction then
    advance
    return .function (← g.functionFrom start true false false)
  else if (← isTyped) && (← atWord "abstract") && next.kind == .name "class" false &&
      !next.onNewLine then
    advance
    let (_, span) ← g.classFrom start
    return .classDecl span
  else if (← isTyped) && (← atWord "interface") && !next.onNewLine &&
      (match next.kind with | .name .. => true | _ => false) then
    advance
    g.interfaceRest
    return .other (← spanFrom start)
  else
    let value ← g.assignment true
    semicolon
    return .expression value

def exportDeclaration (start : Nat) : Parse Statement := do
  let (declaration, names) ← g.declaration
  names.forM fun name => noteExport name.text name.span.start
  return .exportNamed (← spanFrom start) (some declaration) none

/-- Whether a declaration without modifiers of the typed dialect begins here. -/
def atPlainDeclaration : Parse Bool := do
  match ← kind with
  | .name word false => return ["var", "let", "const", "function", "class"].contains word
  | _ => return false

/-- An export; it starts where its decorators do. -/
def exportStatement (start : Nat) : Parse Statement := do
  expectWord "export"
  let next ← following
  let typed ← isTyped
  match ← kind with
  | .mark "*" => exportAll start
  | .mark "\x7b" => exportNames start
  | .mark "@" =>
    skipDecorators g (← bound)
    g.exportDeclaration start
  | .mark "=" =>
    if typed then
      advance
      let _ ← g.expression
      semicolon
      return .leaf .other (← spanFrom start)
    else unexpected
  | .name "default" false =>
    noteExport "default" (← here)
    advance
    let value ← g.defaultExport
    return .exportDefault (← spanFrom start) value
  | .name "import" false =>
    if typed then
      advance
      skipImportPhase
      let _ ← boundName
      importEquals start
    else unexpected
  | .name "as" false =>
    if typed && next.kind == .name "namespace" false then
      advance
      advance
      let _ ← anyName
      semicolon
      return .leaf .other (← spanFrom start)
    else unexpected
  | _ =>
    if typed && (← atWord "type") && next.kind == .mark "\x7b" then
      advance
      exportNames start
    else if typed && (← atWord "type") && next.kind == .mark "*" then
      advance
      exportAll start
    else if (← atPlainDeclaration) || (← atAsyncFunction) || (← atTypedDeclaration) then
      g.exportDeclaration start
    else unexpected

end ComponentStyles.Script.Grammar
