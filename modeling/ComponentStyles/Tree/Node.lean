import ComponentStyles.Json.Value
import ComponentStyles.Text.Basic

/-!
# Syntax trees of modules

A tree keeps the parts of a module in which a component can be recognised: imports, exports,
function declarations, and the expressions a bundler wraps declarations in. All other syntax is a
leaf that keeps its tag. Every node has a span of byte offsets into the text of the module.
-/

namespace ComponentStyles

/-- A range of byte offsets; `stop` is the offset behind the last byte. -/
structure Span where
  start : Nat
  stop : Nat
  deriving DecidableEq, Repr, Inhabited

/-- A name where it is written. -/
structure Name where
  text : String
  span : Span
  deriving DecidableEq, Repr

/-- A node of the syntax tree of a module. -/
inductive Node where
  | program (span : Span) (body : List Node)
  | importDeclaration (span : Span) (source : Node) (specifiers : List Node)
  | importSpecifier (span : Span) (imported bound : Name)
  | importDefaultSpecifier (span : Span) (bound : Name)
  | importNamespaceSpecifier (span : Span) (bound : Name)
  | exportNamedDeclaration (span : Span) (declaration source : Option Node)
  | exportDefaultDeclaration (span : Span) (declaration : Node)
  /-- The body is the span of the braces, which signatures without a body lack. -/
  | functionDeclaration (span : Span) (id : Option Name) (body : Option Span)
      (isAsync isGenerator : Bool)
  | expressionStatement (span : Span) (expression : Node)
  | callExpression (span : Span) (callee : Node) (arguments : List Node)
  | arrayExpression (span : Span) (elements : List Node)
  | assignmentExpression (span : Span) (operator : String) (left right : Node)
  | identifier (span : Span) (name : String)
  | literal (span : Span) (value : Json)
  /-- Any other syntax. -/
  | other (span : Span) (tag : String)
  deriving Repr, Inhabited

namespace Node

/-- Where the node stands in the text. -/
def span : Node → Span
  | .program s _ | .importDeclaration s _ _ | .importSpecifier s _ _
  | .importDefaultSpecifier s _ | .importNamespaceSpecifier s _
  | .exportNamedDeclaration s _ _ | .exportDefaultDeclaration s _
  | .functionDeclaration s _ _ _ _ | .expressionStatement s _ | .callExpression s _ _
  | .arrayExpression s _ | .assignmentExpression s _ _ _ | .identifier s _ | .literal s _
  | .other s _ => s

/-- The tag that names the kind of syntax. -/
def tag : Node → String
  | .program .. => "Program"
  | .importDeclaration .. => "ImportDeclaration"
  | .importSpecifier .. => "ImportSpecifier"
  | .importDefaultSpecifier .. => "ImportDefaultSpecifier"
  | .importNamespaceSpecifier .. => "ImportNamespaceSpecifier"
  | .exportNamedDeclaration .. => "ExportNamedDeclaration"
  | .exportDefaultDeclaration .. => "ExportDefaultDeclaration"
  | .functionDeclaration .. => "FunctionDeclaration"
  | .expressionStatement .. => "ExpressionStatement"
  | .callExpression .. => "CallExpression"
  | .arrayExpression .. => "ArrayExpression"
  | .assignmentExpression .. => "AssignmentExpression"
  | .identifier .. => "Identifier"
  | .literal .. => "Literal"
  | .other _ tag => tag

/-- The nodes that a walk goes on to, in the order of the text: those that can hold a declaration.
The callee of a call and the target of an assignment are not among them. -/
def children : Node → List Node
  | .program _ body => body
  | .importDeclaration _ _ specifiers => specifiers
  | .exportNamedDeclaration _ declaration _ => declaration.toList
  | .exportDefaultDeclaration _ declaration => [declaration]
  | .expressionStatement _ expression => [expression]
  | .callExpression _ _ arguments => arguments
  | .arrayExpression _ elements => elements
  | .assignmentExpression _ _ _ right => [right]
  | _ => []

end Node

/-- A comment: its text without delimiters and surrounding blanks, and where it stands with them. -/
structure Comment where
  text : Text
  span : Span
  deriving DecidableEq, Repr

/-- The syntax of a module: its tree and its comments in the order of the text. -/
structure Module where
  root : Node
  comments : List Comment

end ComponentStyles
