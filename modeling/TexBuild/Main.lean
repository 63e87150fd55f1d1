import Std.Time.Zoned
import TexBuild.Command.Run
import TexBuild.Shell.Course
import TexBuild.Tool.Defaults

namespace TexBuild.Terminal

/-- The variables of the machine that matter to a run. -/
def variableNames : List String :=
  ["HOME", "PATH", "BUILD_DIR", "LATEX_COMPILER", "TOOL_PROBE_TIMEOUT", "TMPDIR", "TEMP", "TMP",
    "XDG_CACHE_HOME", "XDG_DATA_HOME"]

/-- How many directories deep the machine is looked at. -/
def depthLimit : Nat := 16

/-- Takes what stands at an entry of a directory into a volume. Links and devices are
left out, and every file counts as one that may be run. -/
def takeEntry : Nat → Loc → Volume → IO.FS.DirEntry → IO Volume
  | 0, _, v, _ => return v
  | depth + 1, directory, v, e => do
    match Name.ofChars? e.fileName.toList with
    | none => return v
    | some name =>
      let loc := name :: directory
      match (← e.path.symlinkMetadata).type with
      | .file =>
        let bytes ← IO.FS.readBinFile e.path
        return v.putFile loc ⟨bytes.toList, 0o755⟩
      | .dir => (← e.path.readDir).toList.foldlM (takeEntry depth loc) (v.put loc (.directory 0o755))
      | _ => return v

/-- The users in a list of accounts, a line for each: the name comes first and the home directory
sixth. -/
def homesOf (lines : List String) : List (String × String) :=
  lines.filterMap fun line =>
    match (line.splitOn ":") with
    | name :: _ :: _ :: _ :: _ :: home :: _ => some (name, home)
    | _ => none

/-- The users of the machine. The one at hand is known by a name that a variable gives. -/
def takeAccounts : IO Accounts := do
  let homes ← try pure (homesOf (← IO.FS.lines "/etc/passwd").toList) catch _ => pure []
  return ⟨(← IO.getEnv "USER").bind fun name => homes.lookup name, homes⟩

/-- The machine around the directory at hand. -/
def takeHost : IO Host := do
  let here ← IO.currentDir
  let path := Path.ofString here.toString
  let cwd : Loc := path.names.reverse
  let base := (Shell.systemVolume.makeDirectories [] path.names.length path).1
  let volume ← (← here.readDir).toList.foldlM (takeEntry depthLimit cwd) base
  let environment ← variableNames.filterMapM fun name => do
    return (← IO.getEnv name).map fun text => (name, text)
  return ⟨volume, .calm, cwd, environment, ← takeAccounts, .usual⟩

/-- The rights of a file that its permission bits give. -/
def rights (mode : Nat) : IO.FileRight :=
  let part (shift : Nat) : IO.AccessRight :=
    ⟨mode.testBit (shift + 2), mode.testBit (shift + 1), mode.testBit shift⟩
  ⟨part 6, part 3, part 0⟩

/-- Brings what stands at a place to the machine, where it is new there or another. -/
def giveEntry (before after : Volume) (loc : Loc) : IO Unit := do
  let path := (Volume.spell loc).text
  match after.get? loc with
  | some (.directory _) => if (before.get? loc).isNone then IO.FS.createDirAll path
  | some (.file id) =>
    match after.data? id with
    | none => return
    | some d =>
      if before.fileAt? loc != some d then
        IO.FS.writeBinFile path ⟨d.bytes.toArray⟩
        IO.setAccessRights path (rights d.mode)
  | some _ => return
  | none =>
    match before.get? loc with
    | some (.directory _) => IO.FS.removeDir path
    | some (.file _) => IO.FS.removeFile path
    | _ => return

/-- Brings what a run has changed to the machine: directories before what is in them,
and what is gone in the other order. -/
def giveBack (before after : Volume) : IO Unit := do
  let places (v : Volume) : List Loc :=
    (v.entries.map (·.1)).mergeSort fun a b => decide (a.length ≤ b.length)
  for loc in places after do
    giveEntry before after loc
  for loc in (places before).reverse do
    if (after.get? loc).isNone then giveEntry before after loc

/-- The moment of a run. -/
def moment : IO Moment := do
  let t ← Std.Time.PlainDateTime.now
  return ⟨t.year.toInt.toNat, t.month.toNat, t.day.toNat, t.hour.toNat, t.minute.toNat, t.second.toNat,
    t.nanosecond.toNat / 1000⟩

/-- The version that records name. -/
def version : String := "3.11"

/-- How the program is called. -/
def usage : String := "Usage: resumeide [OPTIONS] COMMAND [ARGS]..."

/-- Runs a command line on the machine. -/
def run (arguments : List String) : IO UInt32 := do
  let host ← takeHost
  let moment ← moment
  let logs ← IO.getEnv "LOGS_PATH"
  let action : Act Command.Printed := do
    let limit ← Act.ask fun h => h.environment.probeLimit
    Command.run
      { programs := Shell.programs none
        probeLimit := limit
        engine := host.environment.engine
        platform := "linux"
        logs := logs
        provenance := ⟨"resumeide" :: arguments, version, moment⟩
        help := Command.lines [usage]
        complaint := fun _ => Command.lines [usage] } arguments
  let (result, session) := action.runOn ⟨host, [], [], .still⟩
  giveBack host.volume session.host.volume
  match result with
  | .ok p =>
    (← IO.getStderr).putStr p.stderr
    (← IO.getStdout).putStr p.stdout
    return p.code.toUInt32
  | .error fault =>
    (← IO.getStderr).putStr (Command.lines [fault.message])
    return 1

end TexBuild.Terminal

def main (arguments : List String) : IO UInt32 :=
  TexBuild.Terminal.run arguments
