import ComponentStyles.Json.Complaint

/-!
# Settings

What a build can be told: which files are components, which parts of a component are scripts and
styles, which query parameters identify a style block, and how placeholder ids are drawn.
-/

namespace ComponentStyles

/-- The settings of a build. -/
structure Settings where
  /-- Extension of component files. -/
  componentExtension : Text := ['.', 'v', 'u', 'e']
  /-- Languages whose parts are scripts. -/
  scriptLangs : List Text := ["js".toList, "ts".toList, "jsx".toList, "tsx".toList]
  /-- Languages whose parts are styles. -/
  styleLangs : List Text :=
    ["css".toList, "scss".toList, "sass".toList, "less".toList, "styl".toList, "stylus".toList]
  /-- Query parameters that a style key keeps, in the order of the key. -/
  keptQueryParams : List Text := ["type".toList, "index".toList]
  /-- Number of characters of a placeholder id. -/
  placeholderLength : Nat := 8
  /-- How often an id is drawn before giving up. -/
  placeholderRetries : Nat := 10
  /-- Text of the comment that marks where the injected call goes. -/
  markerComment : Text := "@styles-inject".toList
  deriving DecidableEq, Repr

namespace Settings

/-- Why settings are refused. -/
inductive Problem where
  /-- They cannot be read; with line and column where they were read from a text. -/
  | unreadable (complaint : Json.Complaint) (place : Option (Nat × Nat))
  | zeroLength
  | zeroRetries
  | emptyExtension
  deriving DecidableEq, Repr

def Problem.message : Problem → String
  | .unreadable complaint none => "Invalid plugin options: " ++ complaint.message
  | .unreadable complaint (some (line, column)) =>
    "Invalid plugin options: " ++ complaint.message ++
      " at line " ++ toString line ++ " column " ++ toString column
  | .zeroLength => "`placeholderLength` must be greater than zero."
  | .zeroRetries => "`placeholderRetries` must be greater than zero."
  | .emptyExtension => "`componentExtension` must not be empty."

/-- Settings a build can work with: ids have characters and are drawn at least once, and not every
file is a component. -/
def check (s : Settings) : Except Problem Settings :=
  if s.placeholderLength = 0 then .error .zeroLength
  else if s.placeholderRetries = 0 then .error .zeroRetries
  else if s.componentExtension = [] then .error .emptyExtension
  else .ok s

/-- The fields by name, in their order. -/
inductive Field where
  | componentExtension
  | scriptLangs
  | styleLangs
  | keptQueryParams
  | placeholderLength
  | placeholderRetries
  | markerComment
  deriving DecidableEq, Repr

def Field.all : List Field :=
  [.componentExtension, .scriptLangs, .styleLangs, .keptQueryParams, .placeholderLength,
    .placeholderRetries, .markerComment]

def Field.name : Field → String
  | .componentExtension => "componentExtension"
  | .scriptLangs => "scriptLangs"
  | .styleLangs => "styleLangs"
  | .keptQueryParams => "keptQueryParams"
  | .placeholderLength => "placeholderLength"
  | .placeholderRetries => "placeholderRetries"
  | .markerComment => "markerComment"

def Field.ofName? (name : String) : Option Field :=
  Field.all.find? fun f => f.name = name

def Field.wanted : Field → Json.Wanted
  | .componentExtension | .markerComment => .text
  | .scriptLangs | .styleLangs | .keptQueryParams => .list
  | .placeholderLength | .placeholderRetries => .count

/-- A value that a field can hold. -/
inductive Datum where
  | text (value : Text)
  | list (value : List Text)
  | count (value : Nat)

/-- The settings with one field set; a value of another kind than the field's changes nothing. -/
def put (s : Settings) : Field → Datum → Settings
  | .componentExtension, .text t => { s with componentExtension := t }
  | .scriptLangs, .list ts => { s with scriptLangs := ts }
  | .styleLangs, .list ts => { s with styleLangs := ts }
  | .keptQueryParams, .list ts => { s with keptQueryParams := ts }
  | .placeholderLength, .count n => { s with placeholderLength := n }
  | .placeholderRetries, .count n => { s with placeholderRetries := n }
  | .markerComment, .text t => { s with markerComment := t }
  | _, _ => s

def value (s : Settings) : Field → Datum
  | .componentExtension => .text s.componentExtension
  | .scriptLangs => .list s.scriptLangs
  | .styleLangs => .list s.styleLangs
  | .keptQueryParams => .list s.keptQueryParams
  | .placeholderLength => .count s.placeholderLength
  | .placeholderRetries => .count s.placeholderRetries
  | .markerComment => .text s.markerComment

/-- Checked settings are the settings. -/
theorem check_eq_ok_iff {s t : Settings} :
    check s = .ok t ↔ t = s ∧ 0 < s.placeholderLength ∧ 0 < s.placeholderRetries ∧
      s.componentExtension ≠ [] := by
  unfold check
  split
  · simp; omega
  · split
    · simp; omega
    · split
      · simp_all
      · simp_all [Nat.pos_iff_ne_zero, eq_comm]

end Settings

end ComponentStyles
