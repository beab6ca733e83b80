import ComponentStyles.Script.Grammar.Operands
import ComponentStyles.Script.Grammar.Targets

/-!
# Operators

Unary operators, and binary ones by their levels: an operator takes as its right operand whatever
binds tighter than itself.
-/

namespace ComponentStyles.Script.Grammar

open Parse

variable (g : Grammar)

/-- The level of the power operator, which alone takes its right operand first. -/
def powerLevel : Nat := 12

/-- The level of the operators that compare. -/
def compareLevel : Nat := 8

def levelOf? : TokenKind → Option Nat
  | .mark "??" => some 1
  | .mark "||" => some 2
  | .mark "&&" => some 3
  | .mark "|" => some 4
  | .mark "^" => some 5
  | .mark "&" => some 6
  | .mark "==" | .mark "!=" | .mark "===" | .mark "!==" => some 7
  | .mark "<" | .mark ">" | .mark "<=" | .mark ">=" => some compareLevel
  | .name "instanceof" false | .name "in" false | .name "as" false
  | .name "satisfies" false => some compareLevel
  | .mark "<<" | .mark ">>" | .mark ">>>" => some 9
  | .mark "+" | .mark "-" => some 10
  | .mark "*" | .mark "/" | .mark "%" => some 11
  | .mark "**" => some powerLevel
  | _ => none

def isLogical (k : TokenKind) : Bool :=
  k == .mark "??" || k == .mark "||" || k == .mark "&&"

/-- Whether an expression is a logical one without parentheses. -/
def isLogicalLeaf : Expression → Bool
  | .leaf .logical _ => true
  | _ => false

/-- A type put on an expression behind it. -/
def assertedType (start : Nat) (e : Expression) (fault : Diagnostic) : Parse Expression := do
  advance
  g.type
  if !(← isTyped) then note fault start
  return .typed (← spanFrom start) e

/-- The operators behind an operand that bind tighter than a level, with their right operands. The
operator of the operand is known if it has one without parentheses. -/
def operatorsFrom (start level : Nat) :
    Nat → Expression → Option TokenKind → Parse Expression
  | 0, _, _ => throw .tooDeep
  | fuel + 1, e, last => do
    if ← atMark ">" then reread angleLexeme
    let k ← kind
    match levelOf? k with
    | none => return e
    | some own =>
      let binds := if own = powerLevel then level ≤ own else level < own
      if !binds then return e
      else if k == .name "in" false && !(← around).inOperator then return e
      else if k == .name "as" false || k == .name "satisfies" false then
        if ← onNewLine then return e
        else
          let fault : Diagnostic :=
            if k == .name "as" false then .assertionOutsideTyped else .satisfactionOutsideTyped
          operatorsFrom start level fuel (← g.assertedType start e fault) none
      else
        advance
        let rightStart ← here
        let right ← g.operators own
        if isLogical k then
          let isCoalesce (k : TokenKind) : Bool := k == .mark "??"
          let leftMixes := last.any fun l => isLogical l && isCoalesce l != isCoalesce k
          if leftMixes then note .mixedCoalesce start
          else if isCoalesce k && isLogicalLeaf right then note .mixedCoalesce rightStart
          operatorsFrom start level fuel (.leaf .logical (← spanFrom start)) (some k)
        else operatorsFrom start level fuel (.leaf .binary (← spanFrom start)) (some k)

/-- Operators that bind tighter than a level, and their operands. -/
def operatorsRule (level : Nat) : Parse Expression := do
  let start ← here
  let fuel ← bound
  if (← around).inOperator && (← kind) == .privateName then
    advance
    expectWord "in"
    let _ ← g.operators compareLevel
    g.operatorsFrom start level fuel (.leaf .other (← spanFrom start)) none
  else
    let e ← g.unary
    g.operatorsFrom start level fuel e none

/-- Refuses the power operator behind an operand with a unary operator. -/
def refusePower (start : Nat) : Parse Unit := do
  if ← atMark "**" then note .unparenthesizedPower start

def prefixed (kind : LeafExpression) : Parse Expression := do
  let start ← here
  advance
  let _ ← g.unary
  refusePower start
  return .leaf kind (← spanFrom start)

/-- An operand, perhaps counted up or down behind it. -/
def postfixed : Parse Expression := do
  let start ← here
  let e ← g.chain
  if ((← atMark "++") || (← atMark "--")) && !(← onNewLine) then
    let _ ← e.simpleTarget
    advance
    return .leaf .other (← spanFrom start)
  else return e

def unaryRule : Parse Expression := do
  let start ← here
  match ← kind with
  | .mark "+" | .mark "-" | .mark "!" | .mark "~" => g.prefixed .unary
  | .name "delete" false | .name "typeof" false | .name "void" false => g.prefixed .unary
  | .name "await" false =>
    if (← around).await then g.prefixed .awaiting else g.postfixed
  | .mark "++" | .mark "--" =>
    advance
    let e ← g.unary
    let _ ← e.simpleTarget
    return .leaf .other (← spanFrom start)
  | .mark "<" | .mark "<<" =>
    if (← isTyped) && !(← isMarkup) then
      g.typeArguments
      let e ← g.unary
      refusePower start
      return .typed (← spanFrom start) e
    else g.postfixed
  | _ => g.postfixed

end ComponentStyles.Script.Grammar
