/-!
# Error reports

What a failing step tells its caller: a code, a message, the guarantee that the failure protects, a
place and hints.
-/

namespace ComponentStyles

/-- An error as a caller sees it. -/
structure Report where
  code : String
  message : String
  guarantee : String
  file : String
  line : Nat
  column : Nat
  hints : List String
  deriving DecidableEq, Repr

namespace Report

/-- Code of a module that cannot be read. -/
def parseCode : String := "VPSI-ERR-PARSE-001"

/-- Code of a build that has run out of placeholder ids. -/
def placeholderCode : String := "VPSI-ERR-PLACEHOLDER-001"

/-- Code of a range that cannot be cut out of a text. -/
def spliceCode : String := "VPSI-ERR-SPLICE-001"

def optionsCode : String := "VPSI-ERR-OPTIONS-001"

/-- What is promised by failing with a code. -/
def guaranteeOf (code : String) : String :=
  if code = parseCode then
    "A component is never emitted without its style injection call."
  else if code = placeholderCode then
    "Placeholder tokens are unique for the whole build; two components never share one."
  else if code = spliceCode then "Source is only spliced on valid character boundaries."
  else if code = optionsCode then
    "Plugin options are validated before the first module is transformed."
  else "Unknown invariant."

/-- A report with the guarantee of its code. -/
def make (code message file : String) (line column : Nat) (hints : List String := []) : Report :=
  { code, message, guarantee := guaranteeOf code, file, line, column, hints }

def parse (message file : String) (line column : Nat) : Report :=
  make parseCode message file line column

/-- No unused id in so many draws. -/
def placeholderExhausted (tries : Nat) : Report :=
  make placeholderCode
    ("Failed to generate a placeholder id after " ++ toString tries ++ " tries.") "" 0 0
    ["Increase `placeholderLength` or `placeholderRetries`."]

/-- A range that is not one of a text of so many bytes, or does not fall between characters. -/
def spliceRange (start stop length : Nat) : Report :=
  make spliceCode
    ("Cannot splice range " ++ toString start ++ ".." ++ toString stop ++ " into source of " ++
      toString length ++ " bytes.") "" 0 0

def options (message : String) : Report :=
  make optionsCode message "" 0 0

def display (r : Report) : String :=
  "[" ++ r.code ++ "] " ++ r.message ++ " (" ++ r.file ++ ":" ++ toString r.line ++ ":" ++
    toString r.column ++ ")"

end Report

end ComponentStyles
