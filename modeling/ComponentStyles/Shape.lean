import ComponentStyles.Injection
import ComponentStyles.Tree.OfText
import ComponentStyles.Tree.Search

/-!
# Shapes of components

Compiled components come in a few shapes, each of which says how its root module is recognised and
where in the modules of the component the injected call goes.
-/

namespace ComponentStyles

/-- A shape of compiled components. -/
inductive Shape where
  /-- The render function stands in the root module. -/
  | inlineRender
  /-- The render function is imported into the root module from a module of its own. -/
  | importedRender
  /-- A comment with a text marks the place of the call. -/
  | marked (marker : Text)
  deriving DecidableEq, Repr

namespace Shape

/-- The name that a render function has in the root module. -/
def renderName : String := "_sfc_render"

/-- The name of a render function in a module of its own. -/
def exportedRenderName : String := "render"

def tag : Shape → String
  | .inlineRender => "sfc"
  | .importedRender => "classComponent"
  | .marked _ => "marker"

/-- The condition that an attribute is a string. -/
def attributeIs (path value : String) : Constraint :=
  { path := .ofString path, expected := .string value }

def functionsNamed (name : String) (m : Module) : List Node :=
  m.root.search "FunctionDeclaration" [attributeIs "id.name" name]

/-- Whether a root module has the shape. -/
def supports (shape : Shape) (m : Module) : Bool :=
  match shape with
  | .inlineRender => !(functionsNamed renderName m).isEmpty
  | .importedRender =>
    !(m.root.search "ImportSpecifier"
      [attributeIs "imported.name" exportedRenderName,
        attributeIs "local.name" renderName]).isEmpty
  | .marked marker => m.comments.any fun c => c.text == marker

/-- Whether a node is a function with a body. -/
def hasBody : Node → Bool
  | .functionDeclaration _ _ body _ _ => body.isSome
  | _ => false

/-- Puts the call into the first function with a name and a body, if there is one. -/
def intoNamed (name : String) (routine : Text) (c : Component) (m : Module) (code : Text) :
    Except Fault Text :=
  match (functionsNamed name m).find? hasBody with
  | some n => Injection.intoFunction routine c n code
  | none => .ok code

/-- Puts the call where the shape has it in one of the component's modules. A module without such a
place stays as it is. -/
def process [Script.Reader] (shape : Shape) (routine : Text) (c : Component) (id : ModuleId)
    (code : Text) : Except Fault Text := do
  let m ← Module.ofText code id
  match shape with
  | .inlineRender => intoNamed renderName routine c m code
  | .importedRender => intoNamed exportedRenderName routine c m code
  | .marked marker =>
    match m.comments.find? fun c => c.text == marker with
    | some comment => Injection.intoRange routine c comment.span.start comment.span.stop code
    | none => .ok code

end Shape

/-- What a set of detectors reads of its members. -/
class Detector (α : Type) where
  /-- The tag that tells detectors apart. -/
  tag : α → String
  /-- Whether a root module has the shape that is looked for. -/
  supports : α → Module → Bool

instance : Detector Shape where
  tag := Shape.tag
  supports := Shape.supports

namespace Detector

variable {α : Type} [Detector α]

/-- Puts a detector in the place of the one with its tag, or at the end. -/
def register (detector : α) : List α → List α
  | [] => [detector]
  | d :: rest => if tag d = tag detector then detector :: rest else d :: register detector rest

/-- The detector with a tag. -/
def get? (name : String) (detectors : List α) : Option α :=
  detectors.find? fun d => tag d = name

/-- The first detector that supports a root module. -/
def detect (m : Module) (detectors : List α) : Option α :=
  detectors.find? fun d => supports d m

/-- The tags of detectors in their order. -/
def tags (detectors : List α) : List String :=
  detectors.map tag

end Detector

/-- The shapes that a build knows, in the order in which they are tried. -/
structure ShapeSet where
  shapes : List Shape
  deriving DecidableEq, Repr

namespace ShapeSet

def empty : ShapeSet := { shapes := [] }

def register (shape : Shape) (set : ShapeSet) : ShapeSet :=
  { shapes := Detector.register shape set.shapes }

def stock (marker : Text) : ShapeSet :=
  ((empty.register .inlineRender).register .importedRender).register (.marked marker)

/-- The shape with a tag. -/
def get? (tag : String) (set : ShapeSet) : Option Shape :=
  Detector.get? tag set.shapes

/-- The first shape that a root module has. -/
def detect (m : Module) (set : ShapeSet) : Option Shape :=
  Detector.detect m set.shapes

/-- The tags of the shapes in their order. -/
def tags (set : ShapeSet) : List String :=
  Detector.tags set.shapes

end ShapeSet

end ComponentStyles
