import ComponentStyles.Script.Grammar.Statements

/-!
# The grammar tied together

The rules of the grammar with one another as their parts, for any depth of nesting.
-/

namespace ComponentStyles.Script.Grammar

/-- The grammar that nests once more than a given one. -/
def deeper (g : Grammar) : Grammar where
  statement := g.statementRule
  expression := g.expressionRule
  assignment := g.assignmentRule
  operators := g.operatorsRule
  unary := g.unaryRule
  chain := g.chainRule
  markup := g.markupRule
  binding := g.bindingRule
  type := g.typeRule

def ofDepth : Nat → Grammar
  | 0 => empty
  | depth + 1 => (ofDepth depth).deeper

end ComponentStyles.Script.Grammar
