import ComponentStyles.Script.Grammar.State

/-!
# The grammar as a whole

The parts of the grammar that contain themselves: statements in statements, expressions in
expressions, types in types. Each rule of the grammar is a step that takes these parts as given, so
that the rules can be written one by one; `Grammar.ofDepth` in the last module of this folder ties
them together for any depth of nesting.
-/

namespace ComponentStyles.Script

/-- What a declaration binds: its names, whether it is a pattern, and where it begins. -/
structure Binding where
  names : List Name
  isPattern : Bool
  start : Nat

/-- The parts of the grammar that contain themselves. -/
structure Grammar where
  /-- A statement; the flag says that it is the only one of its place, not one of a list. -/
  statement : (isSingle : Bool) → Parse Statement
  /-- An expression with commas. -/
  expression : Parse Expression
  /-- An expression without commas; the flag says whether an arrow function in it may have a return
  type. -/
  assignment : (returnTypes : Bool) → Parse Expression
  /-- Operators that bind tighter than a level, and their operands. -/
  operators : (level : Nat) → Parse Expression
  /-- An operand with its unary operators. -/
  unary : Parse Expression
  /-- An operand without operators: calls and members. -/
  chain : Parse Expression
  /-- An element of markup from its opening angle bracket on; the flag says whether more markup
  text follows behind it. -/
  markup : (isChild : Bool) → Parse Unit
  /-- The target of a declaration. -/
  binding : Parse Binding
  /-- A type. -/
  type : Parse Unit

namespace Grammar

/-- The grammar of nothing: the depth it stands for has been used up. -/
def empty : Grammar where
  statement _ := throw .tooDeep
  expression := throw .tooDeep
  assignment _ := throw .tooDeep
  operators _ := throw .tooDeep
  unary := throw .tooDeep
  chain := throw .tooDeep
  markup _ := throw .tooDeep
  binding := throw .tooDeep
  type := throw .tooDeep

end Grammar

end ComponentStyles.Script
