import ComponentStyles.Tree.Node

/-!
# Nodes as plain data

The JSON form of a tree: every node is an object with its tag, its span and the fields of its kind.
-/

namespace ComponentStyles

/-- The members that a node of any kind has. -/
def Span.members (tag : String) (s : Span) : List (String × Json) :=
  [("type", .string tag), ("start", .nat s.start), ("end", .nat s.stop)]

def Name.toJson (n : Name) : Json :=
  .object [("type", .string "Identifier"), ("name", .string n.text),
    ("start", .nat n.span.start), ("end", .nat n.span.stop)]

/-- The body of a function as data. -/
def Span.blockToJson (s : Span) : Json :=
  .object (s.members "BlockStatement")

namespace Node

mutual

/-- A node and everything below it as data. -/
def toJson : Node → Json
  | .program s body =>
    .object (s.members "Program" ++
      [("body", .array (listToJson body)), ("sourceType", .string "module")])
  | .importDeclaration s source specifiers =>
    .object (s.members "ImportDeclaration" ++
      [("specifiers", .array (listToJson specifiers)), ("source", toJson source)])
  | .importSpecifier s imported bound =>
    .object (s.members "ImportSpecifier" ++
      [("imported", imported.toJson), ("local", bound.toJson)])
  | .importDefaultSpecifier s bound =>
    .object (s.members "ImportDefaultSpecifier" ++ [("local", bound.toJson)])
  | .importNamespaceSpecifier s bound =>
    .object (s.members "ImportNamespaceSpecifier" ++ [("local", bound.toJson)])
  | .exportNamedDeclaration s declaration source =>
    .object (s.members "ExportNamedDeclaration" ++
      [("declaration", optionToJson declaration), ("source", optionToJson source)])
  | .exportDefaultDeclaration s declaration =>
    .object (s.members "ExportDefaultDeclaration" ++ [("declaration", toJson declaration)])
  | .functionDeclaration s id body isAsync isGenerator =>
    .object (s.members "FunctionDeclaration" ++
      [("id", id.elim .null Name.toJson), ("async", .bool isAsync),
        ("generator", .bool isGenerator), ("body", body.elim .null Span.blockToJson)])
  | .expressionStatement s expression =>
    .object (s.members "ExpressionStatement" ++ [("expression", toJson expression)])
  | .callExpression s callee arguments =>
    .object (s.members "CallExpression" ++
      [("callee", toJson callee), ("arguments", .array (listToJson arguments))])
  | .arrayExpression s elements =>
    .object (s.members "ArrayExpression" ++ [("elements", .array (listToJson elements))])
  | .assignmentExpression s operator left right =>
    .object (s.members "AssignmentExpression" ++
      [("operator", .string operator), ("left", toJson left), ("right", toJson right)])
  | .identifier s name => .object (s.members "Identifier" ++ [("name", .string name)])
  | .literal s value => .object (s.members "Literal" ++ [("value", value)])
  | .other s tag => .object (s.members tag)

/-- The nodes of a list as data. -/
def listToJson : List Node → List Json
  | [] => []
  | n :: rest => toJson n :: listToJson rest

/-- A node that may be missing as data. -/
def optionToJson : Option Node → Json
  | none => .null
  | some n => toJson n

end

end Node

end ComponentStyles
