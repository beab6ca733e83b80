import ComponentStyles.Json.Scan

/-!
# Reading JSON values

A JSON text as a value. Members are kept in the order of their keys, and of two members with one
key the last counts.
-/

namespace ComponentStyles.Json

open Scanner

/-- Adds a member in the order of keys, in place of one with the same key. -/
def insertMember (key : String) (value : Json) :
    List (String × Json) → List (String × Json)
  | [] => [(key, value)]
  | (k, v) :: rest =>
    if key = k then (key, value) :: rest
    else if key < k then (key, value) :: (k, v) :: rest
    else (k, v) :: insertMember key value rest

/-- Whether a list or object goes on: the byte behind the blanks is neither its end nor, unless it
is the first, anything but a comma. -/
def goesOn (close : Char) (atEnd noSeparator : SyntaxFault) (isFirst : Bool) : Scanner Bool := do
  match ← peekVisible with
  | none => complainNext atEnd
  | some c =>
    if c = close then
      let _ ← next
      return false
    else if isFirst then return true
    else if c = ',' then
      let _ ← next
      match ← peekVisible with
      | none => complainNext .endInValue
      | some d => if d = close then complainNext .trailingComma else return true
    else complainNext noSeparator

/-- Reads the items of a list; those so far are in reverse. -/
def itemsFrom (value : Scanner Json) : Nat → List Json → Scanner (List Json)
  | 0, _ => refuse .tooDeep
  | fuel + 1, items => do
    if ← goesOn ']' .endInList .noListSeparator items.isEmpty then
      itemsFrom value fuel ((← value) :: items)
    else return items.reverse

def key : Scanner Text := do
  if (← peek) = some '"' then
    let _ ← next
    Scanner.string
  else complainNext .keyNotString

def colon : Scanner Unit := do
  match ← peekVisible with
  | some ':' =>
    let _ ← next
  | some _ => complainNext .noColon
  | none => complainNext .endInObject

def membersFrom (value : Scanner Json) :
    Nat → Bool → List (String × Json) → Scanner (List (String × Json))
  | 0, _, _ => refuse .tooDeep
  | fuel + 1, isFirst, members => do
    if ← goesOn '}' .endInObject .noObjectSeparator isFirst then
      let k ← key
      colon
      let v ← value
      membersFrom value fuel false (insertMember (String.ofList k) v members)
    else return members

/-- Reads a value whose items and members are read by another reader; without one it cannot nest. -/
def valueOver (inner : Option (Scanner Json)) : Scanner Json := do
  match ← peekVisible with
  | none => complainNext .endInValue
  | some c =>
    let fuel := (← get).rest.length + 1
    match c, inner with
    | 'n', _ =>
      let _ ← next
      word ['u', 'l', 'l']
      return .null
    | 't', _ =>
      let _ ← next
      word ['r', 'u', 'e']
      return .bool true
    | 'f', _ =>
      let _ ← next
      word ['a', 'l', 's', 'e']
      return .bool false
    | '"', _ =>
      let _ ← next
      return .string (String.ofList (← Scanner.string))
    | '[', some item =>
      let _ ← next
      return .array (← itemsFrom item fuel [])
    | '{', some member =>
      let _ ← next
      return .object (← membersFrom member fuel true [])
    | '[', none | '{', none => complainNext .tooDeep
    | _, _ =>
      if c = '-' || c.isDigit then return .number (← Scanner.signedNumber)
      else complainNext .noValue

/-- Reads a value that nests at most so deep. -/
def valueWithin : Nat → Scanner Json
  | 0 => valueOver none
  | depth + 1 => valueOver (some (valueWithin depth))

def depthLimit : Nat := 127

/-- Reads a value and the end of the text. -/
def wholeText : Scanner Json := do
  let v ← valueWithin depthLimit
  endOfText
  return v

def ofText (t : Text) : Except Failure Json :=
  match EStateM.run wholeText (.start t) with
  | .ok v _ => .ok v
  | .error failure _ => .error failure

end ComponentStyles.Json
