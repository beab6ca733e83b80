import ComponentStyles.Component
import ComponentStyles.Fault
import ComponentStyles.Text.CharClass
import ComponentStyles.Tree.Node

/-!
# Injected calls

A component's styles are put in place by a call at the start of one of its functions. The call hands
over the placeholder and the id of the component, and a guard declared before the function keeps it
to one run.
-/

namespace ComponentStyles

namespace Component

def guardDeclaration (c : Component) : Text :=
  ";let ".toList ++ c.guardName ++ " = false;\n".toList

/-- The call of the routine under the guard. -/
def guardedCall (routine : Text) (c : Component) : Text :=
  "\nif (!".toList ++ c.guardName ++ ") \x7b\n    ".toList ++ routine ++ "(\"".toList ++
    c.placeholder ++ "\",\"".toList ++ c.id ++ "\");\n    ".toList ++ c.guardName ++
    " = true;\n\x7d\n".toList

end Component

namespace Injection

/-- Whether a word may begin behind what stands before it: not behind a word character or a dollar
sign. The text before is given from its end on. -/
def wordMayFollow (reversed : Text) : Bool :=
  match reversed with
  | [] => true
  | c :: _ => !Text.isWordChar c && c ≠ '$'

/-- The length of a word at the end of a text, if it stands there on its own; word and text are
given from their ends on. -/
def endsInWord (word reversed : Text) : Bool :=
  word.isPrefixOf reversed && wordMayFollow (reversed.drop word.length)

/-- The number of characters of `export`, or `export` and `default`, with the blanks behind each, at
the end of a text that is given from its end on; zero without them. -/
def exportLength (reversed : Text) : Nat :=
  let blanks := (reversed.takeWhile Text.isBlank).length
  let word := reversed.drop blanks
  let exportWord : Text := "export".toList.reverse
  let defaultWord : Text := "default".toList.reverse
  if blanks = 0 then 0
  else if endsInWord exportWord word then blanks + exportWord.length
  else if defaultWord.isPrefixOf word then
    let front := word.drop defaultWord.length
    let blanks' := (front.takeWhile Text.isBlank).length
    if 0 < blanks' && endsInWord exportWord (front.drop blanks') then
      blanks + defaultWord.length + blanks' + exportWord.length
    else 0
  else 0

/-- A text and the `export` at its end. -/
def splitExport (t : Text) : Text × Text :=
  t.splitAt (t.length - exportLength t.reverse)

/-- Makes the function of a node call the routine on its first run. The guard is declared before the
function and the `export` before it, and the call opens the body. A node that is no function with a
body changes nothing. -/
def intoFunction (routine : Text) (c : Component) (n : Node) (code : Text) :
    Except Fault Text :=
  match n with
  | .functionDeclaration span _ (some body) _ _ =>
    let start := span.start
    let stop := body.start + 1
    let refused := Fault.badRange start stop code.byteLength
    if stop < start then .error refused
    else
      match Text.splitAtByte? start code with
      | none => .error refused
      | some (front, tail) =>
        match Text.splitAtByte? (stop - start) tail with
        | none => .error refused
        | some (head, rest) =>
          let (front, exports) := splitExport front
          .ok (front ++ c.guardDeclaration ++ exports ++ head ++ c.guardedCall routine ++ rest)
  | _ => .ok code

/-- Puts the guard and the call in the place of a range of bytes. -/
def intoRange (routine : Text) (c : Component) (start stop : Nat) (code : Text) :
    Except Fault Text :=
  match Text.splitAtByte? start code, Text.splitAtByte? stop code with
  | some (front, _), some (_, rest) =>
    if start ≤ stop then .ok (front ++ c.guardDeclaration ++ c.guardedCall routine ++ rest)
    else .error (.badRange start stop code.byteLength)
  | _, _ => .error (.badRange start stop code.byteLength)

end Injection

end ComponentStyles
