import ContentVisibility.HostError
import ContentVisibility.Settings.Load
import ContentVisibility.Viewer.Json

/-! # One run of the program

A run loads its settings, then the viewer, then the tags, and then renders its
input.  The first of these steps that fails ends the run. -/
set_option autoImplicit false

namespace ContentVisibility

/-- The bytes of a file, or why there are none. -/
abbrev FileContents := Except FileError ByteArray

def FileContents.text (contents : FileContents) : Except FileError Text :=
  match contents with
  | .error e => .error e
  | .ok bytes =>
      match String.fromUTF8? bytes with
      | some s => .ok s.toList
      | none => .error .notUtf8

def Viewer.load (contents : FileContents) : Traced (Except HostError Viewer) :=
  match contents.text with
  | .error e => pure (.error (.file e))
  | .ok s => do
      match ← Viewer.parse s with
      | .error e => return .error (.viewer e)
      | .ok v => return .ok v

/-! ## Runs -/

/-- What ends a run early. -/
inductive Failure where
  | settings (e : SettingsError)
  | host (e : HostError)
  | input (e : FileError)
  deriving DecidableEq

def Failure.message : Failure → Text
  | .settings e => e.message
  | .host e => e.message
  | .input e => e.message

/-- What a run renders with. -/
structure Session where
  renderer : Renderer
  viewer : Viewer

namespace Session

/-- Without a viewer file the viewer is anonymous. -/
def loadViewer (viewerFile : Option FileContents) : Traced (Except HostError Viewer) :=
  match viewerFile with
  | none => pure (.ok .anonymous)
  | some contents => Viewer.load contents

def start (env : Environment) (viewerFile : Option FileContents)
    (compile : PatternCompiler := .bySize) : Traced (Except Failure Session) :=
  match Settings.load env with
  | .error e => pure (.error (.settings e))
  | .ok settings => do
      match ← loadViewer viewerFile with
      | .error e => return .error (.host e)
      | .ok viewer =>
          match Renderer.ofSettings settings.render compile with
          | .error e => return .error (.host (.pattern e))
          | .ok renderer => return .ok { renderer, viewer }

def finish (session : Session) (input : FileContents) : Traced (Except Failure Text) :=
  match input.text with
  | .error e => pure (.error (.input e))
  | .ok document => .ok <$> session.renderer.render document session.viewer

end Session

/-- The text that a run writes. -/
def run (env : Environment) (viewerFile : Option FileContents) (input : FileContents)
    (compile : PatternCompiler := .bySize) : Traced (Except Failure Text) := do
  match ← Session.start env viewerFile compile with
  | .error e => return .error e
  | .ok session => session.finish input

end ContentVisibility
