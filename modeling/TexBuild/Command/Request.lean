import TexBuild.Command.Argument
import TexBuild.Command.Option

namespace TexBuild.Command

/-- What a build from the command line is asked to do. -/
structure BuildRequest where
  source : Path
  verbose : Bool
  limit : Option Seconds
  directory : Option Path
  engine : Option String
  asJson : Bool

/-- What the reading of a saved log is asked to do. -/
structure LogRequest where
  log : Path
  encoding : String
  asJson : Bool
  limit : Int

/-- What the program is asked to do. -/
inductive Request where
  | help
  | build (r : BuildRequest)
  | diagnose (r : LogRequest)
  | check
  | locate

namespace Request

/-- Asks for help; every command has it. -/
def helpOption : OptionSpec := ⟨"help", none, false⟩

def jsonOption : OptionSpec := ⟨"json", none, false⟩

/-- The options of a build. -/
def buildOptions : List OptionSpec :=
  [helpOption, jsonOption, ⟨"verbose", some 'v', false⟩, ⟨"timeout", some 't', true⟩,
    ⟨"build-dir", some 'b', true⟩, ⟨"compiler", some 'c', true⟩]

/-- The options of the reading of a log. -/
def logOptions : List OptionSpec :=
  [helpOption, jsonOption, ⟨"encoding", some 'e', true⟩, ⟨"limit", some 'n', true⟩]

/-- The request for a build. -/
def ofBuildWords (h : Host) (ws : Words) : Option Request := do
  let [source] := ws.rest | none
  let source ← Argument.path? h source
  let limit ← Argument.optional Argument.limit? (ws.value? "timeout")
  let directory ← Argument.optional (Argument.path? h) (ws.value? "build-dir")
  return .build ⟨source, ws.has "verbose", limit, directory, ws.value? "compiler", ws.has "json"⟩

/-- The encoding in which engines write their logs. -/
def usualEncoding : String := "latin-1"

/-- The most findings that are listed when nothing else is said. -/
def usualLimit : Int := 50

/-- The request for the reading of a log. -/
def ofLogWords (h : Host) (ws : Words) : Option Request := do
  let [log] := ws.rest | none
  let log ← Argument.file? h log
  let limit ← Argument.optional Argument.whole? (ws.value? "limit")
  let limit := limit.getD usualLimit
  let encoding := (ws.value? "encoding").getD usualEncoding
  if 1 ≤ limit then some (.diagnose ⟨log, encoding, ws.has "json", limit⟩) else none

/-- A request made of the words after a command; help comes before all other use of
them. -/
def ofWords (specs : List OptionSpec) (make : Words → Option Request) (words : List String) :
    Option Request := do
  let ws ← Words.parse specs true words
  if ws.has "help" then some .help else make ws

/-- A request that takes no words of its own. -/
def bare (r : Request) (ws : Words) : Option Request :=
  if ws.rest = [] then some r else none

/-- The request that a command line makes; nothing when it makes none. -/
def parse (h : Host) (arguments : List String) : Option Request := do
  let ws ← Words.parse [helpOption] false arguments
  if ws.has "help" then some .help
  else
    match ws.rest with
    | [] => some .help
    | command :: words =>
      match command with
      | "compile" => ofWords buildOptions (ofBuildWords h) words
      | "diagnose" => ofWords logOptions (ofLogWords h) words
      | "check" => ofWords [helpOption] (bare .check) words
      | "locate" => ofWords [helpOption] (bare .locate) words
      | _ => none

end Request

end TexBuild.Command
