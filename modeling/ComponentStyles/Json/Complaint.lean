import ComponentStyles.Json.Value
import ComponentStyles.Number.Shortest
import ComponentStyles.Text.Quoted

/-!
# Complaints about JSON

What can be wrong with a JSON text, and with a value where another kind of value is wanted, and the
wording of each.
-/

namespace ComponentStyles.Json

/-- What is wrong with a JSON text. -/
inductive SyntaxFault where
  | endInList
  | endInObject
  | endInString
  | endInValue
  | noColon
  | noListSeparator
  | noObjectSeparator
  | noWord
  | noValue
  | badEscape
  | badNumber
  | numberTooLarge
  | loneSurrogate
  | halfSurrogatePair
  | controlCharacter
  | keyNotString
  | trailingComma
  | trailingText
  | tooDeep
  deriving DecidableEq, Repr

/-- A value met where another kind is wanted. -/
inductive Found where
  | null
  | bool (value : Bool)
  | integer (value : Int)
  | float (value : Binary64)
  | string (value : Text)
  | map
  | sequence
  deriving DecidableEq, Repr

/-- What a value is wanted for. -/
inductive Wanted where
  | count
  | text
  | list
  | settings
  deriving DecidableEq, Repr

/-- What is wrong with a JSON text or value. -/
inductive Complaint where
  | malformed (fault : SyntaxFault)
  | wrongKind (found : Found) (wanted : Wanted)
  | wrongValue (found : Found) (wanted : Wanted)
  | repeatedField (name : String)
  | tooLong (length : Nat)
  deriving DecidableEq, Repr

/-- A complaint and the number of bytes read when it arose, if the value was read from a text. -/
structure Failure where
  complaint : Complaint
  index : Option Nat
  deriving DecidableEq, Repr

def SyntaxFault.message : SyntaxFault → String
  | .endInList => "EOF while parsing a list"
  | .endInObject => "EOF while parsing an object"
  | .endInString => "EOF while parsing a string"
  | .endInValue => "EOF while parsing a value"
  | .noColon => "expected `:`"
  | .noListSeparator => "expected `,` or `]`"
  | .noObjectSeparator => "expected `,` or `\x7d`"
  | .noWord => "expected ident"
  | .noValue => "expected value"
  | .badEscape => "invalid escape"
  | .badNumber => "invalid number"
  | .numberTooLarge => "number out of range"
  | .loneSurrogate => "lone leading surrogate in hex escape"
  | .halfSurrogatePair => "unexpected end of hex escape"
  | .controlCharacter => "control character (\\u0000-\\u001F) found while parsing a string"
  | .keyNotString => "key must be a string"
  | .trailingComma => "trailing comma"
  | .trailingText => "trailing characters"
  | .tooDeep => "recursion limit exceeded"

/-- The found value as a message shows it. -/
def Found.describe : Found → String
  | .null => "null"
  | .bool b => "boolean `" ++ (if b then "true" else "false") ++ "`"
  | .integer i => "integer `" ++ toString i ++ "`"
  | .float x => "floating point `" ++ String.ofList x.render ++ "`"
  | .string s => "string " ++ String.ofList s.quoted
  | .map => "map"
  | .sequence => "sequence"

def Wanted.describe : Wanted → String
  | .count => "usize"
  | .text => "a string"
  | .list => "a sequence"
  | .settings => "struct PluginOptions"

def Complaint.message : Complaint → String
  | .malformed fault => fault.message
  | .wrongKind found wanted =>
    "invalid type: " ++ found.describe ++ ", expected " ++ wanted.describe
  | .wrongValue found wanted =>
    "invalid value: " ++ found.describe ++ ", expected " ++ wanted.describe
  | .repeatedField name => "duplicate field `" ++ name ++ "`"
  | .tooLong length =>
    "invalid length " ++ toString length ++ ", expected fewer elements in array"

end ComponentStyles.Json
