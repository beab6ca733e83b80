import ComponentStyles.ModuleId.Import

/-!
# Components

What is known of a component: the file it comes from, the files that file imports, and the text of
its styles. Its placeholder stands for the styles until the bundle is complete.
-/

namespace ComponentStyles

structure Component where
  /-- Unlike that of any other component; also names the guard of the injected call. -/
  id : Text
  /-- The tag of the shape in which the component was recognised. -/
  shape : Option String
  /-- The id of the component's file. -/
  path : ModuleId
  /-- The ids of the files that the component imports. -/
  files : List ModuleId
  /-- Stands for the styles of the component. -/
  placeholder : Text
  /-- The texts of the style blocks by their keys, in the order of first appearance. -/
  css : List (Text × Text)
  deriving DecidableEq, Repr

namespace Component

/-- What the id of every component begins with. -/
def idStart : Text := "__vpsi_".toList

/-- The placeholder of the component with an id. -/
def placeholderOf (id : Text) : Text :=
  "__#__vite-plugin-styles-inject_".toList ++ id ++ "__#__".toList

/-- A component of which only its file is known. -/
def fresh (id : Text) (path : ModuleId) : Component :=
  { id, shape := none, path, files := [], placeholder := placeholderOf id, css := [] }

/-- Adds the file that an import names, unless it names a package or the file is known; also says
whether it was added. -/
def recordDependency (c : Component) (importer : ModuleId) (specifier : Text) :
    Bool × Component :=
  match ModuleId.resolve importer specifier with
  | none => (false, c)
  | some file => if file ∈ c.files then (false, c) else (true, { c with files := c.files ++ [file] })

/-- A character of a style text inside a string in double quotes: line breaks are left out, and
backslashes and quotes are escaped. -/
def escapeChar (c : Char) : Text :=
  if c = '\n' ∨ c = '\r' then []
  else if c = '\\' then ['\\', '\\']
  else if c = '"' then ['\\', '"']
  else [c]

/-- A style text as the inside of a string in double quotes. -/
def escapeStyle (t : Text) : Text :=
  t.flatMap escapeChar

/-- Puts a text under a key: in the place of the text that has the key, or at the end. -/
def putText (key text : Text) : List (Text × Text) → List (Text × Text)
  | [] => [(key, text)]
  | (k, t) :: rest =>
    if k = key then (k, text) :: rest else (k, t) :: putText key text rest

/-- Stores the text of the style block with an id. -/
def recordStyle (s : Settings) (id : ModuleId) (text : Text) (c : Component) : Component :=
  { c with css := putText (ModuleId.styleKey s id) (escapeStyle text) c.css }

def dependsOn (c : Component) (id : ModuleId) : Bool :=
  c.files.contains id

/-- The texts of all style blocks with a space between them. -/
def styles (c : Component) : Text :=
  Text.join [' '] (c.css.map (·.2))

/-- The name of the variable that keeps the injected call to one run. -/
def guardName (c : Component) : Text :=
  '_' :: '$' :: c.id

end Component

end ComponentStyles
