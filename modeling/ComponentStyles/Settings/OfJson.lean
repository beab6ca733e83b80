import ComponentStyles.Settings.Basic

/-!
# Settings from a JSON value

An object gives fields by name and a list gives them in their order; fields that are not given keep
their defaults and unknown ones are ignored.
-/

namespace ComponentStyles.Settings

open Json (Complaint Found Wanted)

def found : Json → Found
  | .null => .null
  | .bool b => .bool b
  | .number (.int i) => .integer i
  | .number (.double x) => .float x
  | .string s => .string s.toList
  | .array _ => .sequence
  | .object _ => .map

def textOf : Json → Except Complaint Text
  | .string s => .ok s.toList
  | v => .error (.wrongKind (found v) .text)

/-- The value as something that a field can hold. -/
def Datum.ofJson : Wanted → Json → Except Complaint Datum
  | .text, v => .text <$> textOf v
  | .list, .array items => .list <$> items.mapM textOf
  | .count, .number (.int i) =>
    if 0 ≤ i then .ok (.count i.toNat) else .error (.wrongValue (.integer i) .count)
  | wanted, v => .error (.wrongKind (found v) wanted)

/-- Sets the fields that members name, in the order of the members. -/
def putMembers : Settings → List (String × Json) → Except Complaint Settings
  | s, [] => .ok s
  | s, (name, v) :: rest =>
    match Field.ofName? name with
    | none => putMembers s rest
    | some field => do
      let datum ← Datum.ofJson field.wanted v
      putMembers (s.put field datum) rest

/-- Sets fields in order; also gives the number of values left over. -/
def putItems : Settings → List Field → List Json → Except Complaint (Settings × Nat)
  | s, field :: fields, v :: rest => do
    let datum ← Datum.ofJson field.wanted v
    putItems (s.put field datum) fields rest
  | s, _, rest => .ok (s, rest.length)

/-- The settings that a value describes, not checked. -/
def ofJson (v : Json) : Except Problem Settings :=
  let read : Except Complaint Settings :=
    match v with
    | .object members => putMembers {} members
    | .array items => do
      let (s, left) ← putItems {} Field.all items
      if left = 0 then return s else throw (.tooLong items.length)
    | v => throw (.wrongKind (found v) .settings)
  read.mapError (.unreadable · none)

end ComponentStyles.Settings
