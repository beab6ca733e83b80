import ComponentStyles.Settings.Basic
import ComponentStyles.Text.Percent

/-!
# Module ids

A module is known by the path of its file, optionally followed by `?` and a query that names one
block of a component, as in `/src/App.vue?vue&type=style&index=0&lang.css`. The settings say which
ids are components, scripts and styles; the key of a style block keeps only the query parameters
that tell blocks apart.
-/

namespace ComponentStyles

/-- The id of a module. -/
abbrev ModuleId := Text

namespace ModuleId

/-- Whether a text begins with a marker that ends there or before an `&`. -/
def startsWithMarker (marker : Text) (t : Text) : Bool :=
  marker.isPrefixOf t &&
    match t.drop marker.length with
    | [] => true
    | c :: _ => c = '&'

/-- Whether the marker `lang.` with one of the languages stands anywhere in an id, at its end or
before an `&`. -/
def hasLang (langs : List Text) (id : ModuleId) : Bool :=
  id.anyTail fun tail =>
    langs.any fun lang => startsWithMarker (['l', 'a', 'n', 'g', '.'] ++ lang) tail

/-- The file of a component itself, without the query of a block. -/
def isComponent (s : Settings) (id : ModuleId) : Bool :=
  Text.endsWith s.componentExtension id

def isScript (s : Settings) (id : ModuleId) : Bool :=
  isComponent s id || hasLang s.scriptLangs id

def isStyle (s : Settings) (id : ModuleId) : Bool :=
  hasLang s.styleLangs id

/-- The parameters of a query that are kept, in the order of the kept names; of several with one
name the first. -/
def keptParameters (kept : List Text) (params : List (Text × Text)) : List (Text × Text) :=
  kept.filterMap fun name => params.find? fun (key, _) => key = name

/-- A parameter as a key shows it. -/
def shownParameter (p : Text × Text) : Text :=
  p.1 ++ '=' :: p.2

/-- The key under which a style block is stored: its path and its kept parameters. -/
def styleKey (s : Settings) (id : ModuleId) : Text :=
  match id.splitFirst? '?' with
  | none => id
  | some (path, query) =>
    match keptParameters s.keptQueryParams query.parameters with
    | [] => path
    | kept => path ++ '?' :: Text.join ['&'] (kept.map shownParameter)

/-- Whether the id is that of a script with types. -/
def isTyped (id : ModuleId) : Bool :=
  hasLang [['t', 's'], ['t', 's', 'x']] id ||
    Text.endsWith ['.', 't', 's'] id || Text.endsWith ['.', 't', 's', 'x'] id

/-- Whether the id is that of a script with markup in it. -/
def hasMarkup (id : ModuleId) : Bool :=
  hasLang [['j', 's', 'x'], ['t', 's', 'x']] id ||
    Text.endsWith ['.', 'j', 's', 'x'] id || Text.endsWith ['.', 't', 's', 'x'] id

end ModuleId

end ComponentStyles
