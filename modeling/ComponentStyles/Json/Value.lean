import ComponentStyles.Number.Binary64

/-!
# JSON values

Values as a reader of JSON text sees them: a number written without point and exponent stays an
integer, and an object is a list of members in which the first member with a key counts.
-/

namespace ComponentStyles

/-- A number of JSON: an integer, or a binary64 number. -/
inductive JsonNumber where
  | int (value : Int)
  | double (value : Binary64)
  deriving DecidableEq, Repr

/-- A value of JSON. -/
inductive Json where
  | null
  | bool (value : Bool)
  | number (value : JsonNumber)
  | string (value : String)
  | array (items : List Json)
  | object (members : List (String × Json))
  deriving Repr, Inhabited

def JsonNumber.toBinary64 : JsonNumber → Binary64
  | .int i => .ofInt i
  | .double x => x

namespace Json

def nat (n : Nat) : Json :=
  .number (.int n)

/-- The value of the first member with a key. -/
def member? (key : String) : List (String × Json) → Option Json
  | [] => none
  | (k, v) :: rest => if k = key then some v else member? key rest

end Json

end ComponentStyles
