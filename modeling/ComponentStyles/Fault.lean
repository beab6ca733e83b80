import ComponentStyles.ModuleId.Basic
import ComponentStyles.Report
import ComponentStyles.Script.Diagnostic
import ComponentStyles.Text.Position

/-!
# Faults

Why a step of a build fails, and the report of each cause.
-/

namespace ComponentStyles

/-- Why a step of a build fails. -/
inductive Fault where
  /-- The text of a module has a syntax error. -/
  | badSyntax (id : ModuleId) (diagnostic : Script.Diagnostic) (position : Text.Position)
  /-- The text of a module cannot be read, for no reason that can be named. -/
  | unreadable (id : ModuleId)
  /-- All ids that were drawn are in use. -/
  | idsExhausted (tries : Nat)
  /-- A range is none of a text, or does not fall between its characters. -/
  | badRange (start stop length : Nat)
  | badSettings (problem : Settings.Problem)
  deriving DecidableEq, Repr

/-- What a caller is told of a fault. -/
def Fault.report : Fault → Report
  | .badSyntax id diagnostic position =>
    .parse ("Invalid module syntax: " ++ diagnostic.message) (String.ofList id)
      position.line.toNat position.column.toNat
  | .unreadable id => .parse "Parser aborted without a diagnostic." (String.ofList id) 0 0
  | .idsExhausted tries => .placeholderExhausted tries
  | .badRange start stop length => .spliceRange start stop length
  | .badSettings problem => .options problem.message

end ComponentStyles
