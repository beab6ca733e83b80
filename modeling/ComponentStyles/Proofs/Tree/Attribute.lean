import ComponentStyles.Tree.Path
import Mathlib.Data.List.Basic

/-!
# Attribute paths and plain data

A path can be followed in two ways: through the tree as long as it meets nodes, and through the data
that the tree is written as. `resolve_eq_follow`: both lead to the same value or nowhere, for every
node and every path.

Proof. The attributes of a node are one table (`Node.attributes`): a name is looked up in it
(`field?_eq_lookup`), and the members of the node's data are the table with each attribute as data
(`toJson_eq`). So one segment leads to the same on both ways (`Attribute.toJson_child?`), and a path
does by induction on its segments.
-/

namespace ComponentStyles

/-- What a list of segments leads to in plain data. -/
def Json.follow (v : Json) : List String → Option Json
  | [] => some v
  | segment :: rest => (v.child? segment).bind fun w => w.follow rest

theorem Json.member?_eq_lookup (key : String) (members : List (String × Json)) :
    member? key members = members.lookup key := by
  induction members with
  | nil => rfl
  | cons first rest ih =>
    obtain ⟨k, v⟩ := first
    rw [member?, List.lookup_cons, ih]
    by_cases h : k = key
    · rw [if_pos h, h, beq_self_eq_true]
    · rw [if_neg h, beq_eq_false_iff_ne.mpr (Ne.symm h)]

namespace Node

/-! ### The attributes of a node -/

/-- The attributes that only nodes of its kind have, in the order in which data shows them. -/
def fields : Node → List (String × Attribute)
  | .program _ body => [("body", .nodes body), ("sourceType", .data (.string "module"))]
  | .importDeclaration _ source specifiers =>
    [("specifiers", .nodes specifiers), ("source", .node source)]
  | .importSpecifier _ imported bound =>
    [("imported", .data imported.toJson), ("local", .data bound.toJson)]
  | .importDefaultSpecifier _ bound | .importNamespaceSpecifier _ bound =>
    [("local", .data bound.toJson)]
  | .exportNamedDeclaration _ declaration source =>
    [("declaration", declaration.elim (.data .null) .node),
      ("source", source.elim (.data .null) .node)]
  | .exportDefaultDeclaration _ declaration => [("declaration", .node declaration)]
  | .functionDeclaration _ id body isAsync isGenerator =>
    [("id", .data (id.elim .null Name.toJson)), ("async", .data (.bool isAsync)),
      ("generator", .data (.bool isGenerator)), ("body", .data (body.elim .null Span.blockToJson))]
  | .expressionStatement _ expression => [("expression", .node expression)]
  | .callExpression _ callee arguments =>
    [("callee", .node callee), ("arguments", .nodes arguments)]
  | .arrayExpression _ elements => [("elements", .nodes elements)]
  | .assignmentExpression _ operator left right =>
    [("operator", .data (.string operator)), ("left", .node left), ("right", .node right)]
  | .identifier _ name => [("name", .data (.string name))]
  | .literal _ value => [("value", .data value)]
  | .other _ _ => []

def attributes (n : Node) : List (String × Attribute) :=
  ("type", .data (.string n.tag)) :: ("start", .data (.nat n.span.start)) ::
    ("end", .data (.nat n.span.stop)) :: n.fields

theorem field?_eq_lookup (n : Node) (name : String) :
    n.field? name = n.attributes.lookup name := by
  unfold field? attributes
  by_cases htype : name = "type"
  · rw [if_pos htype, htype]
    rfl
  by_cases hstart : name = "start"
  · rw [if_neg htype, if_pos hstart, hstart]
    rfl
  by_cases hend : name = "end"
  · rw [if_neg htype, if_neg hstart, if_pos hend, hend]
    rfl
  rw [if_neg htype, if_neg hstart, if_neg hend, List.lookup_cons, List.lookup_cons,
    List.lookup_cons, beq_eq_false_iff_ne.mpr htype, beq_eq_false_iff_ne.mpr hstart,
    beq_eq_false_iff_ne.mpr hend]
  split
  all_goals try rfl
  -- what is left is a name that no node of the kind has
  refine (List.lookup_eq_none_iff.mpr ?_).symm
  intro p hp
  rw [bne_iff_ne]
  rintro rfl
  cases n <;> grind [fields]

theorem optionToJson_eq (n : Option Node) :
    optionToJson n = (n.elim (Attribute.data .null) Attribute.node).toJson := by
  cases n <;> rfl

theorem toJson_eq (n : Node) :
    n.toJson = .object (n.attributes.map fun p => (p.1, p.2.toJson)) := by
  cases n with
  | exportNamedDeclaration span declaration source =>
    rw [toJson, optionToJson_eq, optionToJson_eq]
    rfl
  | _ => rfl

theorem listToJson_eq_map (ns : List Node) : listToJson ns = ns.map toJson := by
  induction ns with
  | nil => rfl
  | cons n ns ih => rw [listToJson, ih, List.map_cons]

theorem lookup_map_toJson (name : String) (table : List (String × Attribute)) :
    (table.map fun p => (p.1, p.2.toJson)).lookup name
      = (table.lookup name).map Attribute.toJson := by
  induction table with
  | nil => rfl
  | cons first rest ih =>
    rw [List.map_cons, List.lookup_cons, List.lookup_cons, ih]
    cases name == first.1 <;> rfl

end Node

/-! ### Paths -/

theorem Attribute.toJson_child? (a : Attribute) (segment : String) :
    (a.child? segment).map toJson = a.toJson.child? segment := by
  cases a with
  | node n =>
    change (n.field? segment).map toJson = n.toJson.child? segment
    rw [n.field?_eq_lookup, n.toJson_eq, Json.child?, Json.member?_eq_lookup,
      Node.lookup_map_toJson]
  | nodes ns =>
    change ((index? segment).bind fun i => ns[i]?.map Attribute.node).map toJson
      = (index? segment).bind fun i => (Node.listToJson ns)[i]?
    cases index? segment with
    | none => rfl
    | some i =>
      rw [Option.bind_some, Option.bind_some, Node.listToJson_eq_map, List.getElem?_map,
        Option.map_map]
      rfl
  | data v =>
    change ((v.child? segment).map Attribute.data).map toJson = v.child? segment
    rw [Option.map_map]
    exact Option.map_id'

theorem Attribute.toJson_follow (a : Attribute) (segments : List String) :
    (a.follow segments).map toJson = a.toJson.follow segments := by
  induction segments generalizing a with
  | nil => rfl
  | cons segment segments ih =>
    rw [follow, Json.follow, ← a.toJson_child? segment]
    cases a.child? segment with
    | none => rfl
    | some b => exact ih b

theorem AttributePath.resolve_pair (n : Node) (first second : String) :
    resolve ⟨[first, second]⟩ n
      = ((n.field? first).bind fun a => a.child? second).map Attribute.toJson := by
  show ((n.field? first).bind fun a => (a.child? second).bind fun b => some b).map _ = _
  cases n.field? first with
  | none => rfl
  | some a =>
    rw [Option.bind_some, Option.bind_some]
    cases a.child? second <;> rfl

/-- A path leads from a node to what it leads to in the data of the node. -/
theorem AttributePath.resolve_eq_follow (path : String) (n : Node) :
    (ofString path).resolve n = n.toJson.follow (ofString path).segments :=
  Attribute.toJson_follow (.node n) _

end ComponentStyles
