import ComponentStyles.Fault
import ComponentStyles.Script.Reader
import ComponentStyles.Script.Tree

/-!
# The tree of a module's text

A text is read in the dialect that the id of its module names, by any reader of scripts whose
functions and faults stand in the text (`Script.Reader`). Comments are cut out of the text.
-/

namespace ComponentStyles.Module

def dialect (id : ModuleId) : Script.Dialect :=
  { typed := ModuleId.isTyped id, markup := ModuleId.hasMarkup id }

def commentText (raw : Text) : Text :=
  match raw with
  | '/' :: '/' :: line => line
  | '/' :: '*' :: block =>
    if Text.endsWith ['*', '/'] block then block.take (block.length - 2) else raw
  | _ => raw

/-- The comment at a span of a text. -/
def comment? (code : Text) (span : Span) : Option Comment :=
  (Text.slice? span.start span.stop code).map fun raw =>
    { text := (commentText raw).trim, span }

/-- Whether a function can be cut in two behind the brace that opens its body. -/
def functionFits (code : Text) (span : Span) (body : Option Span) : Bool :=
  Text.isBoundary span.start code &&
    match body with
    | none => true
    | some b => span.start ≤ b.start && Text.isBoundary (b.start + 1) code

mutual

/-- Whether the functions of a tree fit the text. -/
def fits (code : Text) : Node → Bool
  | .program _ body => listFits code body
  | .importDeclaration _ source specifiers => fits code source && listFits code specifiers
  | .exportNamedDeclaration _ declaration source =>
    optionFits code declaration && optionFits code source
  | .exportDefaultDeclaration _ declaration => fits code declaration
  | .functionDeclaration span _ body _ _ => functionFits code span body
  | .expressionStatement _ expression => fits code expression
  | .callExpression _ callee arguments => fits code callee && listFits code arguments
  | .arrayExpression _ elements => listFits code elements
  | .assignmentExpression _ _ left right => fits code left && fits code right
  | _ => true

/-- Whether the functions of several trees fit the text. -/
def listFits (code : Text) : List Node → Bool
  | [] => true
  | n :: rest => fits code n && listFits code rest

/-- Whether the functions of a tree that may be missing fit the text. -/
def optionFits (code : Text) : Option Node → Bool
  | none => true
  | some n => fits code n

end

end ComponentStyles.Module

namespace ComponentStyles

/-- Whether what is read fits its text: the functions of a script, or the place of a fault. -/
def Script.outcomeFits (code : Text) : Except Refusal ReadScript → Bool
  | .ok script => Module.fits code script.outline.toNode
  | .error (.diagnosed l) => Text.isBoundary (min l.offset code.byteLength) code
  | .error .undiagnosed => true

/-- What reads the scripts of modules. -/
class Script.Reader where
  read : Dialect → Text → Except Refusal ReadScript
  /-- Functions and faults stand in the text, between characters. -/
  outcomeFits_read : ∀ dialect code, outcomeFits code (read dialect code) = true

def Module.ofText [Script.Reader] (code : Text) (id : ModuleId) : Except Fault Module :=
  match Script.Reader.read (dialect id) code with
  | .error (.diagnosed l) =>
    match Text.position? l.offset code with
    | some position => .error (.badSyntax id l.diagnostic position)
    | none => .error (.unreadable id)
  | .error .undiagnosed => .error (.unreadable id)
  | .ok script =>
    .ok
      { root := script.outline.toNode
        comments := script.comments.filterMap (comment? code) }

/-- Reads a script by the grammar, and refuses what does not fit the text. -/
def Script.readFitting (dialect : Dialect) (code : Text) : Except Refusal ReadScript :=
  let outcome := read dialect code
  if outcomeFits code outcome then outcome else .error .undiagnosed

theorem Script.outcomeFits_readFitting (dialect : Dialect) (code : Text) :
    outcomeFits code (readFitting dialect code) = true := by
  rw [readFitting]
  split
  · assumption
  · rfl

instance : Script.Reader where
  read := Script.readFitting
  outcomeFits_read := Script.outcomeFits_readFitting

end ComponentStyles
