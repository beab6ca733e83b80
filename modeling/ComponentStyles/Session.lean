import ComponentStyles.Component
import ComponentStyles.Fault

/-!
# Sessions

The state of one build: its components in the order of their creation, the ids issued so far, and
the name of the routine that the injected calls call. Ids are drawn at random; a draw is given to
each step from outside, so that what a step does is a function of its draw.
-/

namespace ComponentStyles

/-- The random choices of one step: a letter for each place of the id of each try. -/
abbrev Draw := (attempt place : Nat) → Fin 36

namespace Draw

def letters : Text := "abcdefghijklmnopqrstuvwxyz0123456789".toList

def letter (i : Fin 36) : Char :=
  letters.getD i.val 'a'

def candidate (draw : Draw) (length attempt : Nat) : Text :=
  (List.range length).map fun place => letter (draw attempt place)

/-- The first id of the tries that has not been issued. -/
def firstFresh (draw : Draw) (length : Nat) (issued : List Text) :
    (attempt tries : Nat) → Option Text
  | _, 0 => none
  | attempt, tries + 1 =>
    let id := draw.candidate length attempt
    if id ∈ issued then firstFresh draw length issued (attempt + 1) tries else some id

end Draw

/-- The state of one build. -/
structure Session where
  settings : Settings
  components : List Component
  /-- Where the component of a file stands among the components. -/
  index : List (ModuleId × Nat)
  /-- The ids issued so far, the last one first. -/
  issued : List Text
  /-- The name of the routine. -/
  routine : Text

namespace Session

/-- What the name of the routine begins with. -/
def routineStart : Text := "_vpis_".toList

/-- Issues an id that has not been issued before. -/
def issue (draw : Draw) (s : Session) : Except Fault Text × Session :=
  match draw.firstFresh s.settings.placeholderLength s.issued 0 s.settings.placeholderRetries with
  | some id => (.ok id, { s with issued := id :: s.issued })
  | none => (.error (.idsExhausted s.settings.placeholderRetries), s)

/-- A session without components; the name of its routine uses an id. -/
def start (draw : Draw) (settings : Settings) : Except Fault Session :=
  match issue draw { settings, components := [], index := [], issued := [], routine := [] } with
  | (.ok id, s) => .ok { s with routine := routineStart ++ id }
  | (.error fault, _) => .error fault

/-- Where the component of a file stands. -/
def position? (path : ModuleId) (s : Session) : Option Nat :=
  s.index.lookup path

/-- The component of a file. -/
def get? (path : ModuleId) (s : Session) : Option Component :=
  (s.position? path).bind fun i => s.components[i]?

/-- Changes the component of a file, if there is one. -/
def update (path : ModuleId) (change : Component → Component) (s : Session) : Session :=
  match s.position? path with
  | some i => { s with components := s.components.modify i change }
  | none => s

/-- The component of a file, which is created if there is none. -/
def getOrCreate (draw : Draw) (path : ModuleId) (s : Session) :
    Except Fault Component × Session :=
  match s.get? path with
  | some c => (.ok c, s)
  | none =>
    match s.issue draw with
    | (.ok id, s) =>
      let c := Component.fresh (Component.idStart ++ id) path
      (.ok c,
        { s with
          components := s.components ++ [c]
          index := s.index ++ [(path, s.components.length)] })
    | (.error fault, s) => (.error fault, s)

/-- The first component with a shape that imports a file. -/
def ownerOf (id : ModuleId) (s : Session) : Option Component :=
  s.components.find? fun c => c.shape.isSome && c.dependsOn id

end Session

end ComponentStyles
