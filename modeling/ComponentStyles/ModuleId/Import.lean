import ComponentStyles.ModuleId.Basic

/-!
# The ids of imported modules

An import names its module relative to the directory of the importing module or from the root.
Resolving is a matter of text alone: path segments are read from left to right, `..` takes back the
segment before it, and no segment is taken back beyond the start.
-/

namespace ComponentStyles

/-- A path of files: whether it starts at the root, and its segments, of which `..` may be some. -/
structure FilePath where
  absolute : Bool
  segments : List Text
  deriving DecidableEq, Repr

namespace FilePath

/-- The path that a text is; empty segments and `.` say nothing. -/
def ofText (t : Text) : FilePath :=
  { absolute := t.head? = some '/'
    segments := (t.splitOnChar '/').filter fun seg => seg ≠ [] && seg ≠ ['.'] }

/-- The directory of the file that a text names. The empty text lies in the root. -/
def directoryOf (t : Text) : FilePath :=
  if t = [] then { absolute := true, segments := [] }
  else
    let path := ofText t
    { path with segments := path.segments.dropLast }

/-- The path with another one put behind it; a path from the root stands for itself. -/
def join (base path : FilePath) : FilePath :=
  if path.absolute then path else { base with segments := base.segments ++ path.segments }

/-- One segment put on a stack of segments, the last one first. -/
def pushSegment (stack : List Text) (segment : Text) : List Text :=
  if segment = ['.', '.'] then stack.drop 1 else segment :: stack

def normalize (path : FilePath) : FilePath :=
  { path with segments := (path.segments.foldl pushSegment []).reverse }

def toText (path : FilePath) : Text :=
  (if path.absolute then ['/'] else []) ++ Text.join ['/'] path.segments

end FilePath

/-- Whether an import names a file, as opposed to a package. -/
def ModuleId.isFileSpecifier (specifier : Text) : Bool :=
  match specifier with
  | '.' :: _ => true
  | '/' :: _ => true
  | _ => false

/-- The id of the module that an import in another module names; none for a package. -/
def ModuleId.resolve (importer : ModuleId) (specifier : Text) : Option ModuleId :=
  if isFileSpecifier specifier then
    let directory := FilePath.directoryOf (importer.before '?')
    some ((directory.join (.ofText specifier)).normalize).toText
  else none

end ComponentStyles
