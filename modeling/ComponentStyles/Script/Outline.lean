import ComponentStyles.Number.Binary64
import ComponentStyles.Tree.Node

/-!
# Outlines of scripts

What reading a script yields: its statements and their expressions as far as a syntax tree shows
them, and as far as an expression may turn out to be the target of an assignment. Function bodies,
classes, types and markup are kept as spans only.
-/

namespace ComponentStyles.Script

/-- A string literal: its value and where it stands with its quotes. -/
structure StringPart where
  value : String
  span : Span
  deriving DecidableEq, Repr

/-- Expressions of which only the kind is kept. -/
inductive LeafExpression where
  | arrow
  | function
  | object
  | template
  | conditional
  | binary
  | logical
  | unary
  | sequence
  | construct
  | classExpr
  | awaiting
  | other
  deriving DecidableEq, Repr

/-- The target of an assignment. -/
inductive Target where
  | name (name : Name)
  /-- A property of a value, by name or by computed key. -/
  | member (span : Span)
  /-- Any other target: a pattern, a private member, or a target with a type. -/
  | pattern (span : Span)
  deriving DecidableEq, Repr

mutual

inductive Expression where
  | identifier (name : Name)
  | string (part : StringPart)
  | number (span : Span) (value : Binary64)
  | boolean (span : Span) (value : Bool)
  | null (span : Span)
  | parenthesized (span : Span) (inner : Expression)
  | call (span : Span) (callee : Expression) (arguments : List Element)
  | array (span : Span) (elements : List Element)
  | assignment (span : Span) (operator : String) (target : Target) (value : Expression)
  | member (span : Span)
  | privateMember (span : Span)
  /-- An expression with a type put on it. -/
  | typed (span : Span) (inner : Expression)
  | object (span : Span) (properties : List Property)
  | leaf (kind : LeafExpression) (span : Span)

/-- An item of a list of elements or arguments. -/
inductive Element where
  | item (value : Expression)
  | spread (span : Span) (value : Expression)
  | hole (span : Span)

/-- A property of an object, as far as it matters for assigning to the object. -/
inductive Property where
  /-- A name alone, perhaps with a default, whose start is given. -/
  | shorthand (span : Span) (default : Option Nat)
  | keyed (value : Expression)
  | spread (value : Expression)
  /-- A method or accessor. -/
  | method (span : Span)

end

/-- A function with a name of its own, or a signature without a body. -/
structure FunctionPart where
  span : Span
  id : Option Name
  body : Option Span
  isAsync : Bool
  isGenerator : Bool
  deriving DecidableEq, Repr

/-- What an import binds. -/
inductive ImportPart where
  | namedImport (span : Span) (imported bound : Name)
  | defaultImport (span : Span) (bound : Name)
  | namespaceImport (span : Span) (bound : Name)
  deriving DecidableEq, Repr

/-- Declarations of which only the kind is kept. -/
inductive LeafDeclaration where
  | variable
  | classDecl
  | other
  deriving DecidableEq, Repr

/-- A declaration that can be exported. -/
inductive Declaration where
  | function (part : FunctionPart)
  | leaf (kind : LeafDeclaration) (span : Span)

/-- What a module exports by default. -/
inductive DefaultExport where
  | function (part : FunctionPart)
  | classDecl (span : Span)
  | expression (value : Expression)
  | other (span : Span)

/-- Statements of which only the kind is kept. -/
inductive LeafStatement where
  | variable
  | classDecl
  | exportAll
  | block
  | conditional
  | returnStmt
  | empty
  | other
  deriving DecidableEq, Repr

inductive Statement where
  | importDeclaration (span : Span) (source : StringPart) (parts : List ImportPart)
  | exportNamed (span : Span) (declaration : Option Declaration) (source : Option StringPart)
  | exportDefault (span : Span) (value : DefaultExport)
  | function (part : FunctionPart)
  | expression (span : Span) (value : Expression)
  | leaf (kind : LeafStatement) (span : Span)

/-- A script: the span of its text and its statements, without directives. -/
structure Outline where
  span : Span
  statements : List Statement

def Expression.span : Expression → Span
  | .identifier name => name.span
  | .string part => part.span
  | .number s _ | .boolean s _ | .null s | .parenthesized s _ | .call s _ _ | .array s _
  | .assignment s _ _ _ | .member s | .privateMember s | .typed s _ | .object s _
  | .leaf _ s => s

end ComponentStyles.Script
