import ComponentStyles.Json.Skip
import ComponentStyles.Settings.OfJson

/-!
# Settings from a JSON text

The fields are set while the text is read, so the first complaint is the one that comes first in
the text, and it carries its place. A blank text stands for the defaults.
-/

namespace ComponentStyles.Settings

open Json (Scanner Wanted Found)
open Json.Scanner

/-- Reads the value that stands where another kind of value is wanted, and complains of it. A list
or an object is not read. -/
def mismatch {α : Type} (wanted : Wanted) : Scanner α := do
  match ← peek with
  | some '[' => complain (.wrongKind .sequence wanted)
  | some '{' => complain (.wrongKind .map wanted)
  | _ =>
    let v ← Json.valueWithin 0
    complain (.wrongKind (found v) wanted)

def textValue : Scanner Text := do
  match ← peekVisible with
  | none => complainNext .endInValue
  | some '"' =>
    let _ ← next
    Scanner.string
  | some _ => mismatch .text

/-- Reads the items of a list of strings; those so far are in reverse. -/
def textsFrom : Nat → List Text → Scanner (List Text)
  | 0, _ => refuse .endInList
  | fuel + 1, ts => do
    if ← Json.goesOn ']' .endInList .noListSeparator ts.isEmpty then
      textsFrom fuel ((← textValue) :: ts)
    else return ts.reverse

def datum : Wanted → Scanner Datum
  | .text => .text <$> textValue
  | .count => do
    match ← peekVisible with
    | none => complainNext .endInValue
    | some c =>
      if c = '-' || c.isDigit then
        match ← signedNumber with
        | .int i =>
          if 0 ≤ i then return .count i.toNat
          else complain (.wrongValue (.integer i) .count)
        | .double x => complain (.wrongKind (.float x) .count)
      else mismatch .count
  | wanted => do
    match ← peekVisible with
    | none => complainNext .endInValue
    | some '[' =>
      let _ ← next
      .list <$> textsFrom ((← get).rest.length + 1) []
    | some _ => mismatch wanted

/-- Complains of a field given twice: behind its name and the blanks that follow, and behind the
end of the object where that comes next. -/
def repeated {α : Type} (field : Field) : Scanner α := do
  if (← peekVisible) = some '}' then let _ ← next
  complain (.repeatedField field.name)

/-- Reads the members of an object into the settings; `seen` are the fields given so far. -/
def members : Nat → Bool → List Field → Settings → Scanner Settings
  | 0, _, _, _ => refuse .endInObject
  | fuel + 1, isFirst, seen, s => do
    if ← Json.goesOn '}' .endInObject .noObjectSeparator isFirst then
      match Field.ofName? (String.ofList (← Json.key)) with
      | none =>
        Json.colon
        Json.skip
        members fuel false seen s
      | some field =>
        if field ∈ seen then repeated field
        else
          Json.colon
          let v ← datum field.wanted
          members fuel false (field :: seen) (s.put field v)
    else return s

/-- Reads the end of a list of which every field has been given. -/
def listEnd : Scanner Unit := do
  match ← peekVisible with
  | some ']' =>
    let _ ← next
  | some ',' =>
    let _ ← next
    if (← peekVisible) = some ']' then complainNext .trailingComma
    else complainNext .trailingText
  | some _ => complainNext .trailingText
  | none => complainNext .endInList

/-- Reads the items of a list into the fields in their order. -/
def items : Bool → List Field → Settings → Scanner Settings
  | _, [], s => do
    listEnd
    return s
  | isFirst, field :: fields, s => do
    if ← Json.goesOn ']' .endInList .noListSeparator isFirst then
      let v ← datum field.wanted
      items false fields (s.put field v)
    else return s

/-- Reads settings and the end of the text. -/
def wholeText : Scanner Settings := do
  let s ←
    match ← peekVisible with
    | none => complainNext .endInValue
    | some '{' =>
      let _ ← next
      members ((← get).rest.length + 1) true [] {}
    | some '[' =>
      let _ ← next
      items true Field.all {}
    | some _ => mismatch .settings
  endOfText
  return s

/-- The settings that a text describes, not checked. -/
def ofText (t : Text) : Except Problem Settings :=
  if t.trim = [] then .ok {}
  else
    match EStateM.run wholeText (.start t) with
    | .ok s _ => .ok s
    | .error failure _ =>
      .error (.unreadable failure.complaint (failure.index.map (Json.place t)))

end ComponentStyles.Settings
