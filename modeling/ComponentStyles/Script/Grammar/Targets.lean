import ComponentStyles.Script.Grammar.Basic

/-!
# Targets of assignments

An expression is read before it is known to be a target. Names and members are targets of any
assignment, and lists and objects of such are patterns, which only a plain assignment takes apart.
-/

namespace ComponentStyles.Script

open Parse

/-- An expression without the parentheses and types around it. -/
def Expression.bare : Expression → Expression
  | .parenthesized _ inner => inner.bare
  | .typed _ inner => inner.bare
  | e => e

/-- The target that a name or member is. -/
def Expression.simpleTarget : Expression → Parse Target
  | .identifier name => return .name name
  | .member span => return .member span
  | .privateMember span => return .pattern span
  | .parenthesized span inner =>
    match inner with
    | .array .. | .object .. => failAt .invalidAssignment span.start
    | _ => inner.simpleTarget
  | .typed span inner =>
    match inner.bare with
    | .identifier _ | .member _ | .privateMember _ => return .pattern span
    | _ => failAt .invalidAssignment span.start
  | e => failAt .invalidAssignment e.span.start

/-- Takes back the fault of a default in an object that turns out to be a pattern. -/
def allowDefault (start : Nat) : Parse Unit :=
  modify fun s => { s with defaults := s.defaults.filter fun d => d.1 ≠ start }

mutual

/-- Checks that an expression is a target or pattern. -/
def Expression.checkTarget : Expression → Parse Unit
  | .array _ elements => checkElements elements
  | .object _ properties => checkProperties properties
  | .identifier _ | .member _ | .privateMember _ => return ()
  | .parenthesized span inner => do
    let _ ← (Expression.parenthesized span inner).simpleTarget
  | .typed span inner => do
    let _ ← (Expression.typed span inner).simpleTarget
  | e => failAt .invalidAssignment e.span.start

/-- Checks that an expression is a target, perhaps with a default. -/
def Expression.checkTargetWithDefault : Expression → Parse Unit
  | .assignment span operator _ _ =>
    if operator = "=" then return () else failAt .invalidAssignment span.start
  | .array _ elements => checkElements elements
  | .object _ properties => checkProperties properties
  | .identifier _ | .member _ | .privateMember _ => return ()
  | .parenthesized span inner => do
    let _ ← (Expression.parenthesized span inner).simpleTarget
  | .typed span inner => do
    let _ ← (Expression.typed span inner).simpleTarget
  | e => failAt .invalidAssignment e.span.start

/-- Checks the elements of an array pattern. -/
def checkElements : List Element → Parse Unit
  | [] => return ()
  | .hole _ :: rest => checkElements rest
  | .item e :: rest => do
    e.checkTargetWithDefault
    checkElements rest
  | .spread span e :: rest => do
    if !rest.isEmpty then note .restNotLast span.start
    e.checkTarget
    checkElements rest

/-- Checks the properties of an object pattern. -/
def checkProperties : List Property → Parse Unit
  | [] => return ()
  | .shorthand span _ :: rest => do
    allowDefault span.start
    checkProperties rest
  | .keyed e :: rest => do
    e.checkTargetWithDefault
    checkProperties rest
  | .spread e :: rest => do
    if !rest.isEmpty then note .restNotLast e.span.start
    e.checkTarget
    checkProperties rest
  | .method span :: _ => failAt .invalidAssignment span.start

end

def Expression.target (e : Expression) : Parse Target := do
  match e with
  | .array span _ | .object span _ =>
    e.checkTarget
    return .pattern span
  | _ => e.simpleTarget

end ComponentStyles.Script
