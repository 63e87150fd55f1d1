import TexBuild.Environment
import TexBuild.Path.Basic

namespace TexBuild

/-- An engine ready to be started: by a bare name that the child looks for on its
search path, or by the path of its file. It is verified when it has answered a
request for its version. -/
structure Tool where
  command : String
  isBare : Bool
  verified : Bool
deriving DecidableEq, Repr

/-- The engine that is meant when none is named. -/
def fallbackEngine : String := "pdflatex"

/-- A command that names a file, not something to be looked for. -/
def isPathLike (command : String) : Bool :=
  command.toList.any (fun c => c == '/' || c == '\\')

namespace Tool

/-- The directory of an engine that is named by its path. -/
def directory? (t : Tool) : Option Path :=
  if t.isBare then none else some (Path.ofString t.command).parent

/-- The variables for the engine. The directory of one that is named by its path
comes first on the search path, so that the libraries beside it are found; a
search path that is missing or empty gets no empty entry. -/
def childEnv (t : Tool) (env : Environment) : Environment :=
  match t.directory? with
  | none => env
  | some directory =>
    let path := (env.get? "PATH").getD ""
    env.set "PATH" (if path = "" then directory.text else directory.text ++ ":" ++ path)

/-- Keeps the engine from stopping to ask. -/
def batchFlag : String := "-interaction=nonstopmode"

/-- Tells the engine where to write. -/
def outputFlag : String := "-output-directory"

/-- The command line of a build, the engine first and the source last. -/
def commandLine (t : Tool) (source buildDir : Path) : List String :=
  [t.command, batchFlag, outputFlag ++ "=" ++ buildDir.text, source.text]

/-- The engine in words. -/
def describe (t : Tool) : String :=
  let kind := if t.isBare then "PATH lookup" else "absolute path"
  let state := if t.verified then "verified" else "unverified"
  s!"  Compiler: {t.command} ({kind}, {state})"

end Tool

end TexBuild
