import ComponentStyles.Component
import ComponentStyles.Text.Substring

/-!
# Bundles

When all modules have been put together, each placeholder gives way to the styles of its component,
and the routine is defined wherever it is called, under the name that it has been given by then.
-/

namespace ComponentStyles

/-- A file of a bundle; files without code are left alone. -/
structure Chunk where
  fileName : String
  code : Option Text
  deriving DecidableEq, Repr

namespace Bundle

/-- The definition of the routine under a name. -/
def routineSource (name : Text) : Text :=
  "function ".toList ++ name ++
    ("(e, t) \x7b\n" ++
      "    if (e && \"undefined\" != typeof document) \x7b\n" ++
      "        var d = document.head || document.getElementsByTagName(\"head\")[0],\n" ++
      "            a = document.getElementById(t) || document.createElement(\"style\");\n" ++
      "        a.id = t, a.type = \"text/css\", " ++
      "a.appendChild(document.createTextNode(e)), d.appendChild(a)\n" ++
      "    \x7d\n" ++
      "\x7d").toList

/-- Characters of the name of a function. -/
def isCalleeChar (c : Char) : Bool :=
  c.isAlphanum || c = '_' || c = '$'

/-- The longest run of name characters at the end of a text. -/
def calleeAtEnd (t : Text) : Text :=
  (t.reverse.takeWhile isCalleeChar).reverse

/-- Why no callee can be looked for: the offset is too far behind the end of the text. -/
inductive OffsetFault where
  | behindEnd
  deriving DecidableEq, Repr

/-- The name of the function that is called with what stands at a byte offset, in quotes, as its
first argument: the name in front of the parenthesis two bytes before. -/
def callee (code : Text) (offset : Nat) : Except OffsetFault (Option Text) :=
  if offset < 2 then .ok none
  else if code.byteLength ≤ offset - 2 then .error .behindEnd
  else
    match Text.splitAtByte? (offset - 2) code with
    | some (front, '(' :: _) =>
      let name := calleeAtEnd front
      .ok (if name = [] then none else some name)
    | _ => .ok none

/-- The name of the function that is called at an offset of the text, if there is one. -/
def callee? (code : Text) (offset : Nat) : Option Text :=
  match callee code offset with
  | .ok name => name
  | .error _ => none

/-- The name under which a text calls the routine, as its first occurrence of a placeholder
shows. -/
def calleeIn? (components : List Component) (code : Text) : Option Text :=
  components.findSome? fun c => (Text.offsetOf? c.placeholder code).bind (callee? code)

/-- The name of the routine: the first chunk that shows one decides. -/
def routineName? (components : List Component) (chunks : List Chunk) : Option Text :=
  chunks.findSome? fun chunk => chunk.code.bind (calleeIn? components)

/-- Whether some placeholder in a text is the first argument of a call. -/
def callsRoutine (components : List Component) (code : Text) : Bool :=
  components.any fun c =>
    (Text.occurrences c.placeholder code).any fun offset => (callee? code offset).isSome

/-- A text with the placeholders of the components replaced by their styles, one component after the
other; also says whether there were any. -/
def resolve (components : List Component) (code : Text) : Bool × Text :=
  components.foldl
    (fun (found, code) c =>
      if Text.hasPart c.placeholder code then
        (true, Text.replaceAll c.placeholder c.styles code)
      else (found, code))
    (false, code)

/-- The final text of a chunk: the routine is defined at its start if it is called in it. -/
def finishText (components : List Component) (name : Option Text) (code : Text) : Text :=
  let resolved := (resolve components code).2
  match name with
  | some name =>
    if callsRoutine components code then routineSource name ++ '\n' :: resolved else resolved
  | none => resolved

/-- The chunks in their final form, and the name of the routine. -/
def finish (components : List Component) (chunks : List Chunk) : Option Text × List Chunk :=
  let name := routineName? components chunks
  (name, chunks.map fun chunk => { chunk with code := chunk.code.map (finishText components name) })

end Bundle

end ComponentStyles
