import TexBuild.Shell.Condition
import TexBuild.Shell.Printing
import TexBuild.Shell.State
import TexBuild.Volume.Copy

namespace TexBuild.Shell.Utility

/-- The utilities of the system that are programs of their own. -/
def names : List String :=
  ["sh", "dash", "env", "sleep", "true", "false", "mkdir", "rmdir", "rm", "ln", "chmod", "mkfifo",
    "cat", "cp", "mv", "touch", "echo", "printf", "test", "[", "pwd", "basename", "dirname", "seq"]

/-- A complaint of a utility under its own name. -/
def say (command : List Char) (text : String) : Running Unit := do
  let _ ← Running.write 2 (command ++ ": ".toList ++ text.toList ++ ['\n'])

/-- A path as complaints show it. -/
def shown (path : List Char) : String :=
  "'" ++ String.ofList path ++ "'"

/-- A complaint with the hint that belongs to misuse. -/
def misuse (command : List Char) (text : String) : Running Nat := do
  say command text
  let _ ← Running.write 2 s!"Try '{String.ofList command} --help' for more information.\n".toList
  return 1

/-- The options at the beginning of the words, as single letters, and the rest. -/
def options : List (List Char) → List Char × List (List Char)
  | ['-', '-'] :: rest => ([], rest)
  | ('-' :: c :: cs) :: rest =>
    let (letters, left) := options rest
    (c :: cs ++ letters, left)
  | rest => ([], rest)

/-- Changes the volume or complains. -/
def change (command : List Char) (complaint : Errno → String) (result : Except Errno Volume) :
    Running Bool := do
  match result with
  | .ok v => Running.setVolume v; return true
  | .error e => say command (complaint e); return false

/-- Does one thing for each word; the status tells whether all went well. -/
def forAll (words : List (List Char)) (one : List Char → Running Bool) : Running Nat := do
  let mut status := 0
  for w in words do
    unless ← one w do status := 1
  return status

/-- Microseconds of a span in seconds, with a unit or without. -/
def span? (cs : List Char) : Option Nat :=
  let (number, unit) := match cs.reverse with
    | 's' :: rest => (rest.reverse, 1)
    | 'm' :: rest => (rest.reverse, 60)
    | 'h' :: rest => (rest.reverse, 3600)
    | 'd' :: rest => (rest.reverse, 86400)
    | _ => (cs, 1)
  let whole := number.takeWhile Char.isDigit
  let fraction := match number.drop whole.length with
    | [] => some []
    | '.' :: ds => if ds.all Char.isDigit then some ds else none
    | _ => none
  match fraction with
  | some ds =>
    if whole = [] ∧ ds = [] then none
    else
      let micro := (ds ++ List.replicate 6 '0').take 6
      some (unit * (1000000 * valueOfDigits whole + valueOfDigits micro))
  | none => none

def sleep (command : List Char) (args : List (List Char)) : Running Nat := do
  match args with
  | [] => misuse command "missing operand"
  | _ =>
    for a in args do
      if (span? a).isNone then
        return ← misuse command s!"invalid time interval {shown a}"
    Running.pass (args.foldl (fun n a => n + (span? a).getD 0) 0)
    return 0

/-- Makes a directory and, if asked, those above it. -/
def mkdir (command : List Char) (args : List (List Char)) : Running Nat := do
  let (letters, paths) := options args
  if paths = [] then misuse command "missing operand"
  else
    forAll paths fun path => do
      let s ← get
      let text := Octet.toText path
      if letters.contains 'p' then
        let p := Path.ofString text
        match s.volume.makeDirectories s.cwd p.names.length p with
        | (v, .ok ()) => Running.setVolume v; return true
        | (v, .error e) =>
          Running.setVolume v
          let reason := match e with
            | .refused cause => cause.reason?.getD ""
            | .tooDeep => ""
          say command (s!"cannot create directory {shown path}: " ++ reason)
          return false
      else
        change command (fun e => s!"cannot create directory {shown path}: {e.text}")
          (s.volume.makeDirectory s.cwd text)

def rmdir (command : List Char) (args : List (List Char)) : Running Nat := do
  let (_, paths) := options args
  if paths = [] then misuse command "missing operand"
  else
    forAll paths fun path => do
      let s ← get
      change command (fun e => s!"failed to remove {shown path}: {e.text}")
        (s.volume.removeDirectory s.cwd (Octet.toText path))

/-- Removes files and, if asked, whole trees. -/
def rm (command : List Char) (args : List (List Char)) : Running Nat := do
  let (letters, paths) := options args
  let force := letters.contains 'f'
  let trees := letters.contains 'r' || letters.contains 'R'
  if paths = [] then
    if force then return 0 else misuse command "missing operand"
  else
    forAll paths fun path => do
      let s ← get
      match s.volume.findLink s.cwd (Octet.toText path) with
      | .ok (loc, .directory _) =>
        if trees then
          Running.setVolume (s.volume.removeTree loc)
          return true
        else
          say command s!"cannot remove {shown path}: Is a directory"
          return false
      | .error e =>
        if force && (e == .noEntry || e == .notDirectory) then return true
        else
          say command s!"cannot remove {shown path}: {e.text}"
          return false
      | .ok _ =>
        change command (fun e => s!"cannot remove {shown path}: {e.text}")
          (s.volume.unlink s.cwd (Octet.toText path))

/-- The path at which something arrives: inside a directory under its own name. -/
def arrival (s : State) (source target : List Char) : List Char :=
  Octet.ofText (s.volume.copyTarget s.cwd (Octet.toText source) (Octet.toText target))

/-- Makes links. -/
def ln (command : List Char) (args : List (List Char)) : Running Nat := do
  let (letters, paths) := options args
  let soft := letters.contains 's'
  let kind := if soft then "symbolic" else "hard"
  let (targets, place) := match paths.reverse with
    | [] => ([], [])
    | [one] => ([one], ['.'])
    | place :: rest => (rest.reverse, place)
  if targets = [] then misuse command "missing file operand"
  else
    forAll targets fun target => do
      let s ← get
      let path := Octet.toText (arrival s target place)
      if letters.contains 'f' then
        match s.volume.unlink s.cwd path with
        | .ok v => Running.setVolume v
        | .error _ => pure ()
      let s ← get
      if soft then
        change command (fun e => s!"failed to create {kind} link {shown path.toList}: {e.text}")
          (s.volume.makeLink s.cwd (Octet.toText target) path)
      else
        change command (fun e =>
            if e == .noEntry then s!"failed to access {shown target}: {e.text}"
            else s!"failed to create {kind} link {shown path.toList}: {e.text}")
          (s.volume.shareFile s.cwd (Octet.toText target) path)

/-- The bits of read, write and run for some of owner, group and others. -/
def bits (who : List Char) (mode : Nat) : Nat :=
  let all := who = [] || who.contains 'a'
  let part (c : Char) (shift : Nat) : Nat := if all || who.contains c then mode <<< shift else 0
  part 'u' 6 ||| part 'g' 3 ||| part 'o' 0

/-- One clause of a change of mode, such as `u+x`. -/
def clause? (old : Nat) (cs : List Char) : Option Nat :=
  let who := cs.takeWhile fun c => "ugoa".toList.contains c
  match cs.drop who.length with
  | o :: letters =>
    if letters.all fun c => "rwxX".toList.contains c then
      let mode := (if letters.contains 'r' then 4 else 0) ||| (if letters.contains 'w' then 2 else 0) |||
        (if letters.contains 'x' then 1 else 0)
      -- without a class of users, writing is left to the owner
      let given := if who = [] then bits [] mode &&& 0o755 else bits who mode
      if o = '+' then some (old ||| given)
      else if o = '-' then some (old - (old &&& given))
      else if o = '=' then some ((old - (old &&& bits who 7)) ||| given)
      else none
    else none
  | [] => none

/-- The mode that a text makes of an old one. -/
def mode? (old : Nat) (cs : List Char) : Option Nat :=
  if cs ≠ [] ∧ cs.length ≤ 4 ∧ cs.all Printing.isOctal then
    some (cs.foldl (fun n c => 8 * n + (c.toNat - 0x30)) 0)
  else
    (Text.pieces ',' cs).foldl (fun m c => m.bind fun k => clause? k c) (some old)

def chmod (command : List Char) (args : List (List Char)) : Running Nat := do
  match args with
  | [] => misuse command "missing operand"
  | [mode] => misuse command s!"missing operand after {shown mode}"
  | mode :: paths =>
    if (mode? 0 mode).isNone then misuse command s!"invalid mode: {shown mode}"
    else
      forAll paths fun path => do
        let s ← get
        match s.volume.find s.cwd (Octet.toText path) with
        | .ok (_, e) =>
          let new := (mode? (s.volume.modeOf e) mode).getD 0
          change command (fun e => s!"changing permissions of {shown path}: {e.text}")
            (s.volume.setMode s.cwd (Octet.toText path) new)
        | .error e =>
          say command s!"cannot access {shown path}: {e.text}"
          return false

def mkfifo (command : List Char) (args : List (List Char)) : Running Nat := do
  let (_, paths) := options args
  if paths = [] then misuse command "missing operand"
  else
    forAll paths fun path => do
      let s ← get
      change command (fun e => s!"cannot create fifo {shown path}: {e.text}")
        (s.volume.makePipe s.cwd (Octet.toText path))

/-- What is left to read on the input. -/
def takeInput : Running (List Char) := do
  let cs ← Running.inputLeft
  Running.leaveInput []
  return cs

def cat (command : List Char) (args : List (List Char)) : Running Nat := do
  let (_, paths) := options args
  forAll (if paths = [] then [['-']] else paths) fun path => do
    if path = ['-'] then Running.write 1 (← takeInput)
    else
      let s ← get
      match s.volume.read s.cwd (Octet.toText path) with
      | .ok bytes => Running.write 1 (Octet.ofBytes bytes)
      | .error e =>
        say command s!"{String.ofList path}: {e.text}"
        return false

/-- Copies files. -/
def cp (command : List Char) (args : List (List Char)) : Running Nat := do
  let (_, paths) := options args
  match paths.reverse with
  | [] => misuse command "missing file operand"
  | [one] => misuse command s!"missing destination file operand after {shown one}"
  | place :: rest =>
    forAll rest.reverse fun source => do
      let s ← get
      let path := arrival s source place
      match s.volume.find s.cwd (Octet.toText source) with
      | .error e =>
        say command s!"cannot stat {shown source}: {e.text}"
        return false
      | .ok (_, .directory _) =>
        say command s!"-r not specified; omitting directory {shown source}"
        return false
      | .ok (_, e) =>
        if s.volume.isSameFile s.cwd (Octet.toText source) (Octet.toText path) then
          say command s!"{shown source} and {shown path} are the same file"
          return false
        match s.volume.read s.cwd (Octet.toText source) with
        | .error e =>
          say command s!"cannot open {shown source} for reading: {e.text}"
          return false
        | .ok bytes =>
          let fresh := match s.volume.find s.cwd (Octet.toText path) with
            | .ok _ => false
            | .error _ => true
          match s.volume.write s.cwd (Octet.toText path) fun _ => bytes with
          | .error e =>
            say command s!"cannot create regular file {shown path}: {e.text}"
            return false
          | .ok v =>
            let mode := s.volume.modeOf e
            let v := if fresh then
                match v.setMode s.cwd (Octet.toText path) (Volume.maskedMode mode) with
                | .ok v => v
                | .error _ => v
              else v
            Running.setVolume v
            return true

/-- Moves files. -/
def mv (command : List Char) (args : List (List Char)) : Running Nat := do
  let (_, paths) := options args
  match paths.reverse with
  | [] => misuse command "missing file operand"
  | [one] => misuse command s!"missing destination file operand after {shown one}"
  | place :: rest =>
    forAll rest.reverse fun source => do
      let s ← get
      match s.volume.findLink s.cwd (Octet.toText source) with
      | .error e =>
        say command s!"cannot stat {shown source}: {e.text}"
        return false
      | .ok _ =>
        let path := arrival s source place
        change command
          (fun e => s!"cannot move {shown source} to {shown path}: {e.text}")
          (s.volume.rename s.cwd (Octet.toText source) (Octet.toText path))

def touch (command : List Char) (args : List (List Char)) : Running Nat := do
  let (_, paths) := options args
  if paths = [] then misuse command "missing file operand"
  else
    forAll paths fun path => do
      let s ← get
      match s.volume.find s.cwd (Octet.toText path) with
      | .ok _ => return true
      | .error _ =>
        change command (fun e => s!"cannot touch {shown path}: {e.text}")
          (s.volume.write s.cwd (Octet.toText path) id)

/-- Prints words; escapes are read only if asked for. -/
def echo (args : List (List Char)) : Running Nat := do
  let isOption (a : List Char) : Bool := match a with
    | '-' :: c :: cs => (c :: cs).all fun c => "neE".toList.contains c
    | _ => false
  let letters := (args.takeWhile isOption).flatten
  let line := List.intercalate [' '] (args.dropWhile isOption)
  let (cs, stopped) := if letters.contains 'e' then Printing.unescape (line.length + 1) line []
    else (line, false)
  let ok ← Running.write 1 (if stopped || letters.contains 'n' then cs else cs ++ ['\n'])
  return if ok then 0 else 1

/-- Prints arguments after a format. -/
def printf (complain : String → Running Unit) (args : List (List Char)) : Running Nat := do
  match args with
  | [] =>
    complain "missing operand"
    return 1
  | ['-', '-'] :: format :: rest | format :: rest =>
    let p := Printing.format format rest
    let ok ← Running.write 1 p.text
    for c in p.complaints do complain c
    return if ok && p.complaints.isEmpty then 0 else 1

/-- Checks a condition. -/
def test (complain : String → Running Unit) (name : String) (args : List (List Char)) :
    Running Nat := do
  let words? := if name = "[" then
      (if args.getLast? = some [']'] then some args.dropLast else none)
    else some args
  match words? with
  | none =>
    complain "missing ]"
    return 2
  | some words =>
    let s ← get
    match Condition.evaluate ⟨s.volume, s.cwd⟩ words with
    | .ok holds => return if holds then 0 else 1
    | .error e =>
      complain e
      return 2

/-- The spelling of the directory at hand. -/
def pwd : Running Nat := do
  let s ← get
  let _ ← Running.write 1 (Octet.ofText (Volume.spell s.cwd).text ++ ['\n'])
  return 0

/-- The last name of a path, without a given end. -/
def basename (command : List Char) (args : List (List Char)) : Running Nat := do
  match args with
  | [] => misuse command "missing operand"
  | path :: rest =>
    let bare := (path.reverse.dropWhile (· == '/')).reverse
    let name := if bare = [] then (if path = [] then [] else ['/'])
      else (bare.reverse.takeWhile (· != '/')).reverse
    let suffix := rest.headD []
    let name := if suffix ≠ name ∧ suffix.isSuffixOf name then name.take (name.length - suffix.length)
      else name
    let _ ← Running.write 1 (name ++ ['\n'])
    return 0

/-- A path without its last name. -/
def dirname (command : List Char) (args : List (List Char)) : Running Nat := do
  match args with
  | [] => misuse command "missing operand"
  | _ =>
    forAll args fun path => do
      let bare := path.reverse.dropWhile (· == '/')
      let above := (bare.dropWhile (· != '/')).dropWhile (· == '/')
      let text := if above ≠ [] then above.reverse
        else if path.head? = some '/' then ['/'] else ['.']
      Running.write 1 (text ++ ['\n'])

/-- Counts. -/
def seq (command : List Char) (args : List (List Char)) : Running Nat := do
  let numbers := args.map fun a => (Printing.numberOf a).1
  let (first, step, last) := match numbers with
    | [last] => (1, 1, last)
    | [first, last] => (first, 1, last)
    | [first, step, last] => (first, step, last)
    | _ => (1, 1, 0)
  if numbers = [] then misuse command "missing operand"
  else
    let count := if step > 0 then (last - first) / step + 1
      else if step < 0 then (first - last) / (-step) + 1 else 0
    for i in List.range count.toNat do
      let _ ← Running.write 1 (numeral (first + step * i) ++ ['\n'])
    return 0

/-- Runs a utility under the name by which it was called. -/
def run (name : String) (command : List Char) (args : List (List Char)) : Running Nat :=
  match name with
  | "sleep" => sleep command args
  | "true" => return 0
  | "mkdir" => mkdir command args
  | "rmdir" => rmdir command args
  | "rm" => rm command args
  | "ln" => ln command args
  | "chmod" => chmod command args
  | "mkfifo" => mkfifo command args
  | "cat" => cat command args
  | "cp" => cp command args
  | "mv" => mv command args
  | "touch" => touch command args
  | "echo" => echo args
  | "printf" => printf (say command) args
  | "test" | "[" => test (say command) name args
  | "pwd" => pwd
  | "basename" => basename command args
  | "dirname" => dirname command args
  | "seq" => seq command args
  | _ => return 1

end TexBuild.Shell.Utility
