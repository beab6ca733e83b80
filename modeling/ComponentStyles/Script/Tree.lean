import ComponentStyles.Script.Outline

/-!
# The syntax tree of an outline

Each statement becomes one node of the program's body. Parentheses vanish, function declarations
keep their names, and whatever has no kind of its own becomes a leaf with a tag.
-/

namespace ComponentStyles.Script

def LeafExpression.tag : LeafExpression → String
  | .arrow => "ArrowFunctionExpression"
  | .function => "FunctionExpression"
  | .object => "ObjectExpression"
  | .template => "TemplateLiteral"
  | .conditional => "ConditionalExpression"
  | .binary => "BinaryExpression"
  | .logical => "LogicalExpression"
  | .unary => "UnaryExpression"
  | .sequence => "SequenceExpression"
  | .construct => "NewExpression"
  | .classExpr => "ClassExpression"
  | .awaiting => "AwaitExpression"
  | .other => "Expression"

def LeafDeclaration.tag : LeafDeclaration → String
  | .variable => "VariableDeclaration"
  | .classDecl => "ClassDeclaration"
  | .other => "Declaration"

def LeafStatement.tag : LeafStatement → String
  | .variable => "VariableDeclaration"
  | .classDecl => "ClassDeclaration"
  | .exportAll => "ExportAllDeclaration"
  | .block => "BlockStatement"
  | .conditional => "IfStatement"
  | .returnStmt => "ReturnStatement"
  | .empty => "EmptyStatement"
  | .other => "Statement"

def StringPart.toNode (part : StringPart) : Node :=
  .literal part.span (.string part.value)

/-- A number as data; an infinite one has no form. -/
def numberToJson (x : Binary64) : Json :=
  if x.isFinite then .number (.double x) else .null

/-- The target of an assignment as a node. -/
def Target.toNode : Target → Node
  | .name n => .identifier n.span n.text
  | .member span => .other span "MemberExpression"
  | .pattern span => .other span "Pattern"

mutual

def Expression.toNode : Expression → Node
  | .identifier name => .identifier name.span name.text
  | .string part => part.toNode
  | .number span value => .literal span (numberToJson value)
  | .boolean span value => .literal span (.bool value)
  | .null span => .literal span .null
  | .parenthesized _ inner => inner.toNode
  | .call span callee arguments =>
    .callExpression span callee.toNode (elementsToNodes arguments)
  | .array span elements => .arrayExpression span (elementsToNodes elements)
  | .assignment span operator target value =>
    .assignmentExpression span operator target.toNode value.toNode
  | .member span => .other span "MemberExpression"
  | .privateMember span => .other span LeafExpression.other.tag
  | .typed span _ => .other span LeafExpression.other.tag
  | .object span _ => .other span LeafExpression.object.tag
  | .leaf kind span => .other span kind.tag

/-- An element or argument as a node. -/
def Element.toNode : Element → Node
  | .item value => value.toNode
  | .spread span _ => .other span "SpreadElement"
  | .hole span => .other span "Elision"

def elementsToNodes : List Element → List Node
  | [] => []
  | e :: rest => e.toNode :: elementsToNodes rest

end

def FunctionPart.toNode (f : FunctionPart) : Node :=
  .functionDeclaration f.span f.id f.body f.isAsync f.isGenerator

/-- What an import binds as a node. -/
def ImportPart.toNode : ImportPart → Node
  | .namedImport span imported bound => .importSpecifier span imported bound
  | .defaultImport span bound => .importDefaultSpecifier span bound
  | .namespaceImport span bound => .importNamespaceSpecifier span bound

def Declaration.toNode : Declaration → Node
  | .function part => part.toNode
  | .leaf kind span => .other span kind.tag

def DefaultExport.toNode : DefaultExport → Node
  | .function part => part.toNode
  | .classDecl span => .other span LeafDeclaration.classDecl.tag
  | .expression value => value.toNode
  | .other span => .other span LeafDeclaration.other.tag

def Statement.toNode : Statement → Node
  | .importDeclaration span source parts =>
    .importDeclaration span source.toNode (parts.map ImportPart.toNode)
  | .exportNamed span declaration source =>
    .exportNamedDeclaration span (declaration.map Declaration.toNode)
      (source.map StringPart.toNode)
  | .exportDefault span value => .exportDefaultDeclaration span value.toNode
  | .function part => part.toNode
  | .expression span value => .expressionStatement span value.toNode
  | .leaf kind span => .other span kind.tag

def Outline.toNode (o : Outline) : Node :=
  .program o.span (o.statements.map Statement.toNode)

end ComponentStyles.Script
