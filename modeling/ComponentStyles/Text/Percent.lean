import ComponentStyles.Text.Utf8

/-!
# Query strings

A query is a list of parameters separated by `&`, each a name and a value separated by its first
`=`. In both a plus stands for a space and `%` with two hexadecimal digits for a byte.
-/

namespace ComponentStyles.Text

/-- The value of a byte that is a hexadecimal digit. -/
def hexByte? (b : UInt8) : Option UInt8 :=
  if 48 ≤ b && b ≤ 57 then some (b - 48)
  else if 65 ≤ b && b ≤ 70 then some (b - 55)
  else if 97 ≤ b && b ≤ 102 then some (b - 87)
  else none

/-- The bytes with each escape `%` and two hexadecimal digits replaced by the byte it stands for;
any other `%` stands for itself. -/
def unescapeBytes : List UInt8 → List UInt8
  | 37 :: a :: b :: rest =>
    match hexByte? a, hexByte? b with
    | some high, some low => (high * 16 + low) :: unescapeBytes rest
    | _, _ => 37 :: unescapeBytes (a :: b :: rest)
  | b :: rest => b :: unescapeBytes rest
  | [] => []

/-- What a name or value of a query stands for. -/
def decodeComponent (t : Text) : Text :=
  ofBytes (unescapeBytes (toBytes (t.map fun c => if c = '+' then ' ' else c)))

/-- The name and the value that one segment of a query stands for. -/
def parameter (segment : Text) : Text × Text :=
  match segment.splitFirst? '=' with
  | some (name, value) => (decodeComponent name, decodeComponent value)
  | none => (decodeComponent segment, [])

/-- The parameters of a query; empty segments are none. -/
def parameters (query : Text) : List (Text × Text) :=
  ((query.splitOnChar '&').filter (· ≠ [])).map parameter

end ComponentStyles.Text
