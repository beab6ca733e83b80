import ComponentStyles.Script.Grammar.Whole

/-!
# Reading scripts

The outline of a script and its comments, or the first thing that is wrong with it. Faults of
tokens come before faults of the grammar, and the rules for a module as a whole come last.
-/

namespace ComponentStyles.Script

open Parse

/-- The line that tells a shell how to run a script, if the text begins with one. -/
def shellLine (t : Text) : Text :=
  match t with
  | '#' :: '!' :: _ => t.takeWhile fun c => !isLineBreak c
  | _ => []

/-- The reader at the start of a text. -/
def State.start (dialect : Dialect) (t : Text) : State :=
  let line := shellLine t
  let first := lexemeAt { rest := t.drop line.length, offset := line.byteLength }
  { dialect
    token := first.token
    next := first.next
    lastStop := 0
    comments := first.comments
    tokenFaults := first.faults
    faults := []
    around := {}
    notParameters := []
    defaults := []
    exports := [] }

/-- Whether a statement is a string alone, which is a directive where it comes before all others. -/
def Statement.isDirective : Statement → Bool
  | .expression _ (.string _) => true
  | _ => false

/-- How deep a text of so many characters can nest. -/
def depthFor (length : Nat) : Nat := 10 * length + 40

/-- Reads the statements of a whole text. -/
def wholeScript (length : Nat) : Parse (List Statement) := do
  let more : Parse Bool := return !(← atEnd)
  let statements ← repeatWhile more ((Grammar.ofDepth (depthFor length)).statement false) (← bound)
  return statements.dropWhile Statement.isDirective

/-- The defaults that stand in objects for good, in the order of the text. -/
def State.leftDefaults (s : State) : List Located :=
  s.defaults.reverse.map fun d => ⟨.defaultInObject, d.2⟩

/-- Whether a name is in a list of exports. -/
def isExported (name : String) (exports : List (String × Nat)) : Bool :=
  exports.any fun e => e.1 == name

/-- The faults of names that are exported twice; the names are in the order of the text. -/
def repeatedExports (seen : List (String × Nat)) : List (String × Nat) → List Located
  | [] => []
  | (name, offset) :: rest =>
    if name ≠ "default" && isExported name seen then
      ⟨.repeatedExport name, offset⟩ :: repeatedExports seen rest
    else repeatedExports ((name, offset) :: seen) rest

/-- The faults of a module's exports as a whole. -/
def State.exportFaults (s : State) : List Located :=
  let exports := s.exports.reverse
  let defaults := exports.filter fun e => e.1 == "default"
  let repeatedDefault : List Located :=
    match defaults with
    | first :: _ :: _ => [⟨.repeatedDefaultExport, first.2⟩]
    | _ => []
  repeatedExports [] exports ++ repeatedDefault

/-- Why a text has no outline. -/
inductive Refusal where
  | diagnosed (l : Located)
  /-- It nests too deep to be read. -/
  | undiagnosed
  deriving DecidableEq, Repr

/-- What reading a script yields: its outline, and the spans of its comments in the order of the
text. -/
structure ReadScript where
  outline : Outline
  comments : List Span

/-- Reads a script, or gives the first thing that is wrong with it. -/
def read (dialect : Dialect) (t : Text) : Except Refusal ReadScript :=
  match EStateM.run (wholeScript t.length) (.start dialect t) with
  | .ok statements s =>
    let exportFaults := if dialect.typed then [] else s.exportFaults
    match s.tokenFaults.reverse ++ s.faults.reverse ++ s.leftDefaults ++ exportFaults with
    | [] =>
      .ok
        { outline := { span := ⟨0, t.byteLength⟩, statements }
          comments := s.comments.reverse }
    | first :: _ => .error (.diagnosed first)
  | .error .tooDeep _ => .error .undiagnosed
  | .error (.fault fault) s =>
    .error (.diagnosed ((s.tokenFaults.reverse ++ s.faults.reverse).headD fault))

end ComponentStyles.Script
