import ComponentStyles.Bundle
import ComponentStyles.Session
import ComponentStyles.Shape

/-!
# Builds

A build transforms the modules of a program one by one and finishes its bundle. The root module of
a component is recognised by its shape; from then on the modules that it imports belong to the
component: scripts may get the injected call, and style blocks give their text to the component and
are left empty.
-/

namespace ComponentStyles

/-- A build in progress. -/
structure Build where
  settings : Settings
  shapes : ShapeSet
  session : Session

namespace Build

def withShapes (draw : Draw) (settings : Settings) (shapes : ShapeSet) : Except Fault Build := do
  return { settings, shapes, session := ← Session.start draw settings }

def new (draw : Draw) (settings : Settings) : Except Fault Build :=
  withShapes draw settings (.stock settings.markerComment)

/-- Starts over: all components are forgotten, and the routine gets a new name. -/
def restart (draw : Draw) (b : Build) : Except Fault Unit × Build :=
  match Session.start draw b.settings with
  | .ok session => (.ok (), { b with session })
  | .error fault => (.error fault, b)

/-- What the imports of a module name, in the order of the text; empty names apart. -/
def importSpecifiers (m : Module) : List Text :=
  let source : AttributePath := .ofString "source.value"
  (m.root.search "ImportDeclaration" []).filterMap fun n =>
    match source.resolve n with
    | some (.string specifier) => if specifier.isEmpty then none else some specifier.toList
    | _ => none

/-- A component with the imports of a module added to its files. -/
def recordImports (id : ModuleId) (m : Module) (c : Component) : Component :=
  (importSpecifiers m).foldl (fun c specifier => (c.recordDependency id specifier).2) c

variable [Script.Reader]

/-- Transforms a module of the component of a file, which has a shape. -/
def processModule (path : ModuleId) (shape : Shape) (code : Text) (id : ModuleId) (b : Build) :
    Except Fault (Option Text) × Build :=
  if ModuleId.isScript b.settings id then
    match b.session.get? path with
    | some c => (some <$> shape.process b.session.routine c id code, b)
    | none => (.ok none, b)
  else if ModuleId.isStyle b.settings id && (b.session.get? path).isSome then
    let record := Component.recordStyle b.settings id code
    (.ok (some []), { b with session := b.session.update path record })
  else (.ok none, b)

/-- Transforms the root module of a component. -/
def transformRoot (draw : Draw) (code : Text) (id : ModuleId) (b : Build) :
    Except Fault (Option Text) × Build :=
  match Module.ofText code id with
  | .error fault => (.error fault, b)
  | .ok m =>
    match b.session.getOrCreate draw id with
    | (.error fault, session) => (.error fault, { b with session })
    | (.ok _, session) =>
      let session := session.update id (recordImports id m)
      match b.shapes.detect m with
      | none => (.ok none, { b with session })
      | some shape =>
        let session := session.update id fun c => { c with shape := some shape.tag }
        processModule id shape code id { b with session }

/-- Transforms a module that is no root module: only the modules of a known component change. -/
def transformDependent (code : Text) (id : ModuleId) (b : Build) :
    Except Fault (Option Text) × Build :=
  match b.session.ownerOf id with
  | none => (.ok none, b)
  | some owner =>
    match owner.shape.bind fun tag => b.shapes.get? tag with
    | some shape => processModule owner.path shape code id b
    | none => (.ok none, b)

/-- Transforms a module; none means that it stays as it is. -/
def transform (draw : Draw) (code : Text) (id : ModuleId) (b : Build) :
    Except Fault (Option Text) × Build :=
  if ModuleId.isComponent b.settings id then transformRoot draw code id b
  else transformDependent code id b

/-- Finishes a bundle; also gives the name of the routine in it. -/
def finishBundle (chunks : List Chunk) (b : Build) : Option Text × List Chunk :=
  Bundle.finish b.session.components chunks

end Build

/-- The name under which the tool is registered. -/
def toolName : String := "vue-styles-inject"

/-- The phase of a host in which the tool takes part. -/
def toolPhase : String := "build"

end ComponentStyles
