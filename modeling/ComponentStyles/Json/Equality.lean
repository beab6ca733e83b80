import ComponentStyles.Json.Value

/-!
# Equality of JSON values

Two values are equal as data when they are of one kind and have the same content: numbers by
value, whether written as integers or not, arrays item by item, objects by their keys whatever the
order. Sizes are compared first, so one direction of key inclusion is enough for objects whose
keys are distinct.
-/

namespace ComponentStyles

/-- Whether two numbers are equal as binary64 numbers; the two zeros are. -/
def JsonNumber.agrees (a b : JsonNumber) : Bool :=
  a.toBinary64.comparisonKey == b.toBinary64.comparisonKey

namespace Json

mutual

/-- Whether two values are equal as data. -/
def agrees : Json → Json → Bool
  | .null, .null => true
  | .bool a, .bool b => a == b
  | .number a, .number b => a.agrees b
  | .string a, .string b => a == b
  | .array a, .array b => itemsAgree a b
  | .object a, .object b => a.length == b.length && membersAgree a b
  | _, _ => false

/-- Whether two lists have the same length and pairwise equal items. -/
def itemsAgree : List Json → List Json → Bool
  | [], [] => true
  | a :: as, b :: bs => agrees a b && itemsAgree as bs
  | _, _ => false

/-- Whether each member has an equal member in another object. -/
def membersAgree : List (String × Json) → List (String × Json) → Bool
  | [], _ => true
  | (key, a) :: rest, others =>
    (match member? key others with
      | some b => agrees a b
      | none => false) && membersAgree rest others

end

end Json

end ComponentStyles
