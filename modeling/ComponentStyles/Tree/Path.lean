import ComponentStyles.Tree.Data

/-!
# Attribute paths

A path such as `id.name` leads from a node to one of its attributes. It is followed through the
tree as long as it meets nodes and through plain data behind that; a path that leads nowhere is
missing, which is not the same as leading to null.
-/

namespace ComponentStyles

/-- What a path has led to: a node, a list of nodes, or plain data. -/
inductive Attribute where
  | node (n : Node)
  | nodes (ns : List Node)
  | data (v : Json)

/-- The position that a segment of a path names: decimal digits, which a plus may precede. -/
def index? (segment : String) : Option Nat :=
  let digits :=
    match segment.toList with
    | '+' :: rest => rest
    | cs => cs
  if digits.isEmpty || !digits.all Char.isDigit then none
  else some (digits.foldl (fun n c => n * 10 + (c.toNat - '0'.toNat)) 0)

/-- The member or item of a value that a segment names. -/
def Json.child? (v : Json) (segment : String) : Option Json :=
  match v with
  | .object members => member? segment members
  | .array items => (index? segment).bind fun i => items[i]?
  | _ => none

namespace Node

/-- The attribute of a node with a name. -/
def field? (n : Node) (name : String) : Option Attribute :=
  if name = "type" then some (.data (.string n.tag))
  else if name = "start" then some (.data (.nat n.span.start))
  else if name = "end" then some (.data (.nat n.span.stop))
  else
    match n, name with
    | .program _ body, "body" => some (.nodes body)
    | .program .., "sourceType" => some (.data (.string "module"))
    | .importDeclaration _ source _, "source" => some (.node source)
    | .importDeclaration _ _ specifiers, "specifiers" => some (.nodes specifiers)
    | .importSpecifier _ imported _, "imported" => some (.data imported.toJson)
    | .importSpecifier _ _ bound, "local" => some (.data bound.toJson)
    | .importDefaultSpecifier _ bound, "local" => some (.data bound.toJson)
    | .importNamespaceSpecifier _ bound, "local" => some (.data bound.toJson)
    | .exportNamedDeclaration _ declaration _, "declaration" =>
      some (declaration.elim (.data .null) .node)
    | .exportNamedDeclaration _ _ source, "source" => some (source.elim (.data .null) .node)
    | .exportDefaultDeclaration _ declaration, "declaration" => some (.node declaration)
    | .functionDeclaration _ id _ _ _, "id" => some (.data (id.elim .null Name.toJson))
    | .functionDeclaration _ _ body _ _, "body" =>
      some (.data (body.elim .null Span.blockToJson))
    | .functionDeclaration _ _ _ isAsync _, "async" => some (.data (.bool isAsync))
    | .functionDeclaration _ _ _ _ isGenerator, "generator" =>
      some (.data (.bool isGenerator))
    | .expressionStatement _ expression, "expression" => some (.node expression)
    | .callExpression _ callee _, "callee" => some (.node callee)
    | .callExpression _ _ arguments, "arguments" => some (.nodes arguments)
    | .arrayExpression _ elements, "elements" => some (.nodes elements)
    | .assignmentExpression _ operator _ _, "operator" => some (.data (.string operator))
    | .assignmentExpression _ _ left _, "left" => some (.node left)
    | .assignmentExpression _ _ _ right, "right" => some (.node right)
    | .identifier _ text, "name" => some (.data (.string text))
    | .literal _ value, "value" => some (.data value)
    | _, _ => none

end Node

namespace Attribute

def toJson : Attribute → Json
  | .node n => n.toJson
  | .nodes ns => .array (Node.listToJson ns)
  | .data v => v

/-- What one segment of a path leads to. -/
def child? (a : Attribute) (segment : String) : Option Attribute :=
  match a with
  | .node n => n.field? segment
  | .nodes ns => (index? segment).bind fun i => ns[i]?.map .node
  | .data v => (v.child? segment).map .data

/-- What a list of segments leads to. -/
def follow (a : Attribute) : List String → Option Attribute
  | [] => some a
  | segment :: rest => (a.child? segment).bind fun b => b.follow rest

end Attribute

/-- A path to an attribute. -/
structure AttributePath where
  segments : List String
  deriving DecidableEq, Repr

namespace AttributePath

/-- The path that a text with dots between the segments is. -/
def ofString (path : String) : AttributePath :=
  { segments := (Text.splitOnChar '.' path.toList).map String.ofList }

/-- The value that a path leads to from a node. -/
def resolve (path : AttributePath) (n : Node) : Option Json :=
  ((Attribute.node n).follow path.segments).map Attribute.toJson

end AttributePath

end ComponentStyles
