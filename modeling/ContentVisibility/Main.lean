import ContentVisibility.Run
import ContentVisibility.Settings.Assignments

/-! # The command line

Renders the document on standard input for the viewer whose snapshot the first
argument names, or for an anonymous viewer, and writes it to standard output.
Variables that are not set are looked for in the nearest file `.env`, in the
working directory or above it. -/
set_option autoImplicit false

namespace ContentVisibility.CommandLine

def fileError : IO.Error → FileError
  | .noFileOrDirectory .. => .notFound
  | .inappropriateType .. => .isDirectory
  | e => .other (toString e).toList

def readFile (path : String) : IO FileContents := do
  try return .ok (← IO.FS.readBinFile path)
  catch e => return .error (fileError e)

def environment : IO Environment := do
  let mut env : Environment := []
  for name in (Keyword.all : List Variable) do
    if let some value ← IO.getEnv (String.ofList (Keyword.text name)) then
      env := env ++ [(Keyword.text name, value.toList)]
  return env

/-- The text of the nearest file of assignments, if there is one. -/
def assignments : IO Text := do
  let levels := ((← IO.currentDir).toString.toList.filter (· == '/')).length
  let mut path := ".env"
  for _ in [0:levels + 1] do
    match ← readFile path with
    | .ok bytes => return (FileContents.text (.ok bytes)).toOption.getD []
    | .error _ => path := "../" ++ path
  return []

def viewerFile (args : List String) : IO (Option FileContents) :=
  match args with
  | [] => return none
  | path :: _ => some <$> readFile path

def report (e : Failure) : IO UInt32 := do
  IO.eprintln ("Error: " ++ String.ofList e.message)
  return 1

def exec (args : List String) : IO UInt32 := do
  let env := (← environment).addFile (← assignments)
  match (Session.start env (← viewerFile args)).value with
  | .error e => report e
  | .ok session =>
      match (session.finish (.ok (← (← IO.getStdin).readBinToEnd))).value with
      | .error e => report e
      | .ok document =>
          (← IO.getStdout).putStr (String.ofList document)
          return 0

end ContentVisibility.CommandLine

def main (args : List String) : IO UInt32 := ContentVisibility.CommandLine.exec args
