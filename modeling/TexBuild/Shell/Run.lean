import TexBuild.Shell.Expand
import TexBuild.Shell.Reader
import TexBuild.Shell.Utility

namespace TexBuild.Shell

namespace Running

/-- Repeats a step as long as it says so. -/
def iterateFrom (step : Running Bool) : Nat → State → Except Flow Unit × State
  | 0, s => (.error .endless, s)
  | n + 1, s =>
    match step.run s with
    | (.ok true, s') => iterateFrom step n s'
    | (.ok false, s') => (.ok (), s')
    | (.error f, s') => (.error f, s')

/-- The most rounds of one loop. -/
def roundLimit : Nat := 200000

/-- Repeats a step as long as it says so. -/
def iterate (step : Running Bool) : Running Unit :=
  fun s => iterateFrom step roundLimit s

/-- Runs the body of a loop once; whether the loop goes on. -/
def round (body : Running Unit) : Running Bool := do
  let loops := (← get).loops
  modify fun s => { s with loops := loops + 1 }
  let goes ← try
      body
      pure true
    catch
      | .leave k => if k ≤ 1 then pure false else throw (.leave (k - 1))
      | .again k => if k ≤ 1 then pure true else throw (.again (k - 1))
      | f => throw f
  modify fun s => { s with loops := loops }
  return goes

/-- Does something with the descriptors as they are, and puts them back. -/
def keepPorts (body : Running Unit) : Running Unit :=
  fun s =>
    match body.run s with
    | (r, s') => (r, { s' with ports := s.ports })

/-- The reason for which a file was not opened. -/
def openReason (creating : Bool) (e : Errno) : String :=
  if e == .noEntry || e == .notDirectory then
    if creating then "Directory nonexistent" else "No such file"
  else e.text

/-- Opens a file for writing. Nobody reads from a pipe of the volume, so opening
one takes forever. -/
def openOutput (fd : Nat) (path : List Char) (change : List UInt8 → List UInt8) : Running Bool := do
  let s ← get
  match s.volume.find s.cwd (Octet.toText path) with
  | .ok (_, .pipe _) => throw .endless
  | _ =>
    match s.volume.write s.cwd (Octet.toText path) change with
    | .error e =>
      complain ("cannot create ".toList ++ path ++ ": ".toList ++ (openReason true e).toList)
      return false
    | .ok v =>
      setVolume v
      match v.find s.cwd (Octet.toText path) with
      | .ok (_, .file id) => setPort fd (.file id); return true
      | .ok (_, .sink _) => setPort fd .nothing; return true
      | _ => return true

/-- Opens a file for reading. -/
def openInput (fd : Nat) (path : List Char) : Running Bool := do
  let s ← get
  let refused (e : Errno) : Running Bool := do
    complain ("cannot open ".toList ++ path ++ ": ".toList ++ (openReason false e).toList)
    return false
  match s.volume.find s.cwd (Octet.toText path) with
  | .ok (_, .pipe _) => throw .endless
  | .ok (_, .directory _) => setInput fd []; return true
  | .ok _ =>
    match s.volume.read s.cwd (Octet.toText path) with
    | .ok bytes => setInput fd (Octet.ofBytes bytes); return true
    | .error e => refused e
  | .error e => refused e

end Running

namespace Run

/-- The names of the commands of the shell that stop a script when they are
misused. -/
def special : List String :=
  [":", ".", "break", "continue", "eval", "exec", "exit", "export", "readonly", "return", "set",
    "shift", "times", "trap", "unset"]

/-- The other commands of the shell itself. -/
def ordinary : List String :=
  ["echo", "printf", "test", "[", "true", "false", "pwd", "read", "cd", "kill", "wait", "umask",
    "local", "command", "type", "hash", "ulimit", "alias", "unalias"]

/-- Where the shell looks for commands when it is not told. -/
def defaultPath : String :=
  "/usr/local/sbin:/usr/local/bin:/usr/sbin:/usr/bin:/sbin:/bin"

/-- The path at which a command is found. -/
def find? (s : State) (path : String) (name : List Char) : Option String :=
  let command := Octet.toText name
  if name.contains '/' then some command
  else
    let candidates := (Environment.searchEntries path).map fun d =>
      if d = "" then command else d ++ "/" ++ command
    candidates.find? fun c => match s.volume.find s.cwd c with
      | .ok (_, .file _) => true
      | _ => false

/-- The search path of the shell. -/
def searchPath (s : State) : String :=
  ((s.text? "PATH".toList).map Octet.toText).getD defaultPath

/-- The number of a signal. -/
def signal? (cs : List Char) : Option Nat :=
  if cs ≠ [] ∧ cs.all Char.isDigit then some (valueOfDigits cs)
  else
    let name := if "SIG".toList.isPrefixOf cs then cs.drop 3 else cs
    [("EXIT", 0), ("HUP", 1), ("INT", 2), ("QUIT", 3), ("ILL", 4), ("TRAP", 5), ("ABRT", 6), ("BUS", 7),
      ("FPE", 8), ("KILL", 9), ("USR1", 10), ("SEGV", 11), ("USR2", 12), ("PIPE", 13), ("ALRM", 14),
      ("TERM", 15), ("CHLD", 17), ("CONT", 18), ("STOP", 19)].lookup (String.ofList name)

/-- Sends a signal. -/
def kill (args : List (List Char)) : Running Nat := do
  let (number, targets) := match args with
    | ['-', 's'] :: name :: rest => (signal? name, rest)
    | ('-' :: c :: cs) :: rest => (signal? (c :: cs), rest)
    | rest => (some 15, rest)
  match number with
  | none =>
    Running.complain "kill: Illegal option -s".toList
    return 2
  | some k =>
    Utility.forAll targets fun t => do
      let s ← get
      if t = numeral s.number then
        match s.traps.lookup k with
        | some text =>
          if k = 9 then throw (.killed s.number k)
          unless text = [] do set { s with caught := s.caught ++ [k] }
          return true
        | none =>
          if k ≠ 0 ∧ k ≠ 17 ∧ k ≠ 18 then throw (.killed s.number k)
          return true
      else if t = numeral (s.number + 1) ∧ s.jobsEnd > s.clock then
        modify fun s => { s with
          holds := s.holds.map fun h => { h with until? := h.until?.map (min s.clock) }
          jobsEnd := s.clock }
        return true
      else
        if t.all Char.isDigit then Running.complain "kill: No such process\n".toList
        else Running.complain ("kill: Illegal number: ".toList ++ t)
        return false

/-- Reads one line into variables, the last of which takes the rest. -/
def read (args : List (List Char)) : Running Nat := do
  let raw := args.head? = some ['-', 'r']
  let names := if raw then args.drop 1 else args
  let left ← Running.inputLeft
  let line := left.takeWhile (· != '\n')
  let ended := line.length < left.length
  Running.leaveInput (left.drop (line.length + 1))
  let line := if raw then line else line.filter (· != '\\')
  let gaps := Expand.gaps (← get)
  let rec assign (cs : List Char) : List (List Char) → Running Unit
    | [] => return
    | [last] => Running.setVariable last (gaps.trim cs)
    | name :: rest => do
      let (word, left) := gaps.split cs
      Running.setVariable name word
      assign left rest
  if names = [] then
    Running.complain "read: arg count".toList
    return 2
  assign line names
  return if ended then 0 else 1

/-- Takes a directory for the one at hand and says so in a variable that is visible
to the programs that are started. -/
def enter (loc : Loc) : Running Unit := do
  modify fun s => { s with
    cwd := loc
    exported := "PWD".toList :: s.exported.filter (· != "PWD".toList) }
  match (← get).text? "PWD".toList with
  | some old => Running.setVariable "OLDPWD".toList old
  | none => pure ()
  Running.setVariable "PWD".toList (Octet.ofText (Volume.spell loc).text)

/-- Changes the directory at hand. -/
def cd (args : List (List Char)) : Running Nat := do
  let s ← get
  let target := match args with
    | ['-', 'P'] :: t :: _ | ['-', 'L'] :: t :: _ | t :: _ => t
    | [] => (s.text? "HOME".toList).getD ['.']
  match s.volume.find s.cwd (Octet.toText target) with
  | .ok (loc, .directory mode) =>
    if Volume.mayEnter mode then
      enter loc
      return 0
    else
      Running.complain ("cd: can't cd to ".toList ++ target)
      return 2
  | _ =>
    Running.complain ("cd: can't cd to ".toList ++ target)
    return 2

/-- A name and, after an equals sign, a value. -/
def assignment (cs : List Char) : List Char × Option (List Char) :=
  let name := cs.takeWhile (· != '=')
  (name, if name.length < cs.length then some (cs.drop (name.length + 1)) else none)

/-- Makes variables visible to the programs that are started. -/
def exportNames (args : List (List Char)) : Running Nat := do
  for a in args do
    let (name, value?) := assignment a
    match value? with
    | some v => Running.setVariable name v
    | none => pure ()
    modify fun s => { s with exported := name :: s.exported.filter (· != name) }
  return 0

/-- The options that words set and take away, and the words after them if there are
any. -/
def settings (options : List Char) :
    List (List Char) → List Char × Option (List (List Char))
  | [] => (options, none)
  | ['-', '-'] :: rest => (options, some rest)
  | ('-' :: c :: cs) :: rest =>
    settings (options.filter (fun o => !(c :: cs).contains o) ++ c :: cs) rest
  | ('+' :: c :: cs) :: rest => settings (options.filter fun o => !(c :: cs).contains o) rest
  | rest => (options, some rest)

/-- Gives variables the values that they had before. -/
def restore (old : State) (names : List (List Char)) : Running Unit :=
  modify fun s => { s with
    bindings := names.foldl (fun vars name => match old.text? name with
      | some text => insertKey name text vars
      | none => eraseKey name vars) s.bindings }

/-- The number that a command of the shell is given, or one of its own. -/
def count (command : String) (args : List (List Char)) (dflt : Nat) : Running Nat := do
  match args with
  | [] => return dflt
  | a :: _ =>
    if a ≠ [] ∧ a.all Char.isDigit then return valueOfDigits a
    else Expand.abort (command.toList ++ ": Illegal number: ".toList ++ a)

mutual

/-- Runs commands, one after the other. -/
def commands : Nat → List Command → Running Unit
  | 0, _ => throw .endless
  | _ + 1, [] => return
  | n + 1, c :: rest => do
    command n c
    commands n rest
termination_by n => (n, 0)

/-- Runs commands for what they print. -/
def output (n : Nat) (body : List Command) : Running (List Char) :=
  Running.outputOf (commands n body)
termination_by (n, 1)

/-- Opens what redirections ask for, up to the first failure. -/
def openAll : Nat → List Redirect → Running Bool
  | 0, _ => throw .endless
  | _ + 1, [] => return true
  | n + 1, r :: rest => do
    let ok ← match r with
      | .here fd text => do
        let cs ← Expand.text (output n) text
        Running.setInput fd cs
        pure true
      | .file fd opening target => do
        let path ← Expand.text (output n) target
        match opening with
        | .write => Running.openOutput fd path fun _ => []
        | .append => Running.openOutput fd path id
        | .read => Running.openInput fd path
        | .duplicate =>
          if path = ['-'] then do
            modify fun s => { s with ports := eraseKey fd s.ports }
            pure true
          else if path ≠ [] ∧ path.all Char.isDigit then
            match (← get).ports.lookup (valueOfDigits path) with
            | some p => do
              Running.setPort fd p
              pure true
            | none => do
              Running.complain (path ++ ": Bad file descriptor".toList)
              pure false
          else do
            Running.complain (path ++ ": bad fd number".toList)
            pure false
    if ok then openAll n rest else return false
termination_by n => (n, 0)

/-- Runs a command. -/
def command : Nat → Command → Running Unit
  | 0, _ => throw .endless
  | n + 1, c => do
    Running.checkTime
    match c with
    | .simple line assignments words redirects => do
      modify fun s => { s with line := line }
      simple assignments words redirects n
      let caught := (← get).caught
      modify fun s => { s with caught := [] }
      answer caught n
      Running.checkFailure
    | .both a b => do
      Running.testing (command n a)
      if (← get).status = 0 then command n b
    | .either a b => do
      Running.testing (command n a)
      if (← get).status ≠ 0 then command n b
    | .negated a => do
      Running.testing (command n a)
      Running.setStatus (if (← get).status = 0 then 1 else 0)
    | .background a => Running.background (command n a)
    | .chain a b => do
      let start := (← get).clock
      let text ← Running.outputOf (command n a)
      let first := (← get).clock
      modify fun s => { s with clock := start }
      Running.keepPorts do
        Running.setInput 0 text
        Running.foreground (command n b)
      modify fun s => { s with clock := max s.clock first }
      Running.checkFailure
    | .group body => commands n body
    | .subshell body => do
      Running.foreground (commands n body)
      Running.checkFailure
    | .choice branches otherwise => choose branches otherwise n
    | .loop negated condition body => do
      Running.setStatus 0
      Running.iterate do
        -- the status of the last round stands while the condition is looked at
        let before := (← get).status
        let goes ← Running.round do
          Running.testing (commands n condition)
          let holds := (← get).status == 0
          if holds == negated then
            Running.setStatus before
            throw (.leave 1)
        if goes then Running.round (commands n body) else return false
    | .each name words? body => do
      let items ← match words? with
        | some words => Expand.fields (output n) words
        | none => do pure (← get).args
      Running.setStatus 0
      each name body items n
    | .select subject arms => do
      let cs ← Expand.text (output n) subject
      Running.setStatus 0
      select cs arms n
    | .define name body =>
      modify fun s => { s with functions := insertKey name body s.functions, status := 0 }
    | .redirected line body redirects =>
      Running.keepPorts do
        modify fun s => { s with line := line }
        if ← openAll n redirects then command n body else Running.setStatus 2
termination_by n => (n, 0)

/-- Does what the traps say of signals; the status stays. -/
def answer (signals : List Nat) : Nat → Running Unit
  | 0 => throw .endless
  | n + 1 => do
    match signals with
    | [] => return
    | k :: rest => do
      let s ← get
      script (Script.ofChars ((s.traps.lookup k).getD [])) n
      Running.setStatus s.status
      answer rest n
termination_by n => (n, 0)

/-- Runs the first branch whose condition holds. -/
def choose (branches : List (List Command × List Command)) (otherwise : List Command) :
    Nat → Running Unit
  | 0 => throw .endless
  | n + 1 => do
    match branches with
    | [] =>
      Running.setStatus 0
      commands n otherwise
    | (condition, body) :: rest => do
      Running.testing (commands n condition)
      if (← get).status = 0 then commands n body else choose rest otherwise n
termination_by n => (n, 0)

/-- Runs a body for each of the items. -/
def each (name : List Char) (body : List Command) (items : List (List Char)) : Nat → Running Unit
  | 0 => throw .endless
  | n + 1 => do
    match items with
    | [] => return
    | item :: rest => do
      Running.setVariable name item
      if ← Running.round (commands n body) then each name body rest n
termination_by n => (n, 0)

/-- Runs the first arm that fits. -/
def select (subject : List Char) (arms : List (List (List Piece) × List Command)) :
    Nat → Running Unit
  | 0 => throw .endless
  | n + 1 => do
    match arms with
    | [] => return
    | ([], _) :: rest => select subject rest n
    | (p :: ps, body) :: rest => do
      let ms ← Expand.pattern (output n) p
      if Matcher.fits ms subject then commands n body
      else select subject ((ps, body) :: rest) n
termination_by n => (n, 0)

/-- Sets variables as assignments say. -/
def assignAll (assignments : List (List Char × List Piece)) : Nat → Running Unit
  | 0 => throw .endless
  | n + 1 => do
    match assignments with
    | [] => return
    | (name, word) :: rest => do
      Running.setVariable name (← Expand.text (output n) word)
      assignAll rest n
termination_by n => (n, 0)

/-- Runs a simple command. -/
def simple (assignments : List (List Char × List Piece)) (words : List (List Piece))
    (redirects : List Redirect) : Nat → Running Unit
  | 0 => throw .endless
  | n + 1 => do
    let before := (← get).status
    let fields ← Expand.fields (output n) words
    match fields with
    | [] =>
      -- without a command only what the values run gives a status
      Running.setStatus 0
      assignAll assignments n
      let status := (← get).status
      Running.keepPorts do
        let ok ← openAll n redirects
        Running.setStatus (if ok then status else 2)
    | name :: args =>
      let word := String.ofList name
      let isSpecial := special.contains word
      let old ← get
      if word = "exec" then do
        assignAll assignments n
        if ← openAll n redirects then
          match args with
          | [] => Running.setStatus 0
          | target :: rest => replace "exec: " target rest n
        else throw (.exit 2)
      else
        Running.keepPorts do
          if ← openAll n redirects then
            Running.setStatus before
            if isSpecial then
              assignAll assignments n
              builtin word args n
            else
              match old.functions.lookup name with
              | some body => do
                assignAll assignments n
                call body args n
              | none =>
                if ordinary.contains word then
                  assignAll assignments n
                  builtin word args n
                  restore old (assignments.map (·.1))
                else
                  Running.foreground do
                    assignAll assignments n
                    let _ ← exportNames (assignments.map (·.1))
                    Running.renumbered (replace "" name args n)
          else if isSpecial then throw (.exit 2)
          else Running.setStatus 2
termination_by n => (n, 0)

/-- Runs a function with arguments of its own. -/
def call (body : Command) (args : List (List Char)) : Nat → Running Unit
  | 0 => throw .endless
  | n + 1 => do
    let outer ← get
    modify fun s => { s with args := args, loops := 0, locals := some [] }
    try command n body
    catch
      | .back k => Running.setStatus k
      | f => throw f
    modify fun s => { s with
      args := outer.args
      loops := outer.loops
      locals := outer.locals
      bindings := (s.locals.getD []).foldl (fun vars (name, old?) => match old? with
        | some old => insertKey name old vars
        | none => eraseKey name vars) s.bindings }
termination_by n => (n, 0)

/-- Runs a command of the shell itself. -/
def builtin (name : String) (args : List (List Char)) : Nat → Running Unit
  | 0 => throw .endless
  | n + 1 => do
    let complain (text : String) : Running Unit := Running.complain (name.toList ++ ": ".toList ++ text.toList)
    match name with
    | ":" | "true" | "times" | "umask" | "hash" | "ulimit" | "alias" | "unalias" =>
      Running.setStatus 0
    | "trap" =>
      match args with
      | text :: signals =>
        for signal in signals do
          match signal? signal with
          | some k => modify fun s => { s with
              traps := if text = ['-'] then eraseKey k s.traps else insertKey k text s.traps }
          | none => Running.complain ("trap: ".toList ++ signal ++ ": bad trap".toList)
      | [] => pure ()
      Running.setStatus 0
    | "false" => Running.setStatus 1
    | "echo" =>
      let ok ← Running.write 1 (Printing.echo args)
      unless ok do complain "echo: I/O error"
      Running.setStatus (if ok then 0 else 1)
    | "printf" =>
      match args with
      | [] =>
        Running.complain "printf: usage: printf format [arg ...]".toList
        Running.setStatus 2
      | _ => Running.setStatus (← Utility.printf complain args)
    | "test" | "[" => Running.setStatus (← Utility.test complain name args)
    | "pwd" => Running.setStatus (← Utility.pwd)
    | "read" => Running.setStatus (← read args)
    | "cd" => Running.setStatus (← cd args)
    | "kill" => Running.setStatus (← kill args)
    | "wait" =>
      let s ← get
      Running.pass (s.jobsEnd - s.clock)
      Running.setStatus 0
    | "exit" => throw (.exit (← count name args (← get).status))
    | "return" => throw (.back (← count name args (← get).status))
    | "break" =>
      let k ← count name args 1
      let loops := (← get).loops
      if loops = 0 then Running.setStatus 0 else throw (.leave (min k loops))
    | "continue" =>
      let k ← count name args 1
      let loops := (← get).loops
      if loops = 0 then Running.setStatus 0 else throw (.again (min k loops))
    | "shift" =>
      let k ← count name args 1
      if k ≤ (← get).args.length then
        modify fun s => { s with args := s.args.drop k, status := 0 }
      else Expand.abort "shift: can't shift that many".toList
    | "export" | "readonly" => Running.setStatus (← exportNames args)
    | "local" =>
      if (← get).locals.isNone then Expand.abort "local: not in a function".toList
      for a in args do
        let (variableName, value?) := assignment a
        modify fun s => { s with
          locals := s.locals.map ((variableName, s.text? variableName) :: ·) }
        match value? with
        | some text => Running.setVariable variableName text
        | none => pure ()
      Running.setStatus 0
    | "unset" =>
      for a in args do
        modify fun s => { s with
          bindings := eraseKey a s.bindings, exported := s.exported.filter (· != a) }
      Running.setStatus 0
    | "set" =>
      modify fun s =>
        let (options, rest?) := settings s.options args
        { s with options := options, args := rest?.getD s.args, status := 0 }
    | "eval" =>
      Running.setStatus 0
      script (Script.ofChars (List.intercalate [' '] args)) n
    | "." =>
      match args with
      | [] => Running.setStatus 0
      | path :: _ =>
        let s ← get
        match s.volume.read s.cwd (Octet.toText path) with
        | .ok bytes =>
          Running.setStatus 0
          try script (Script.ofChars (Octet.ofBytes bytes)) n
          catch
            | .back k => Running.setStatus k
            | f => throw f
        | .error e =>
          Expand.abort (".: cannot open ".toList ++ path ++ ": ".toList ++ (Running.openReason false e).toList)
    | "command" | "type" =>
      match args with
      | ['-', 'v'] :: target :: _ =>
        let word := String.ofList target
        if special.contains word || ordinary.contains word then
          let _ ← Running.write 1 (target ++ ['\n'])
          Running.setStatus 0
        else
          let s ← get
          match find? s (searchPath s) target with
          | some path =>
            let _ ← Running.write 1 (Octet.ofText path ++ ['\n'])
            Running.setStatus 0
          | none => Running.setStatus 127
      | target :: rest =>
        let word := String.ofList target
        if special.contains word || ordinary.contains word then builtin word rest n
        else Running.foreground (Running.renumbered (replace "" target rest n))
      | [] => Running.setStatus 0
    | _ => Running.setStatus 0
termination_by n => (n, 0)

/-- Runs a script in the shell at hand. What cannot be read ends it. -/
def script (text : Script) : Nat → Running Unit
  | 0 => throw .endless
  | n + 1 => do
    commands n text.commands
    match text.fault with
    | some (line, reason) =>
      modify fun s => { s with line := line }
      Expand.abort reason.toList
    | none => return
termination_by n => (n, 0)

/-- Runs a script from its start to its end, and then what it has left to be done. -/
def shell (text : Script) : Nat → Running Unit
  | 0 => throw .endless
  | n + 1 => do
    let finish (body : Running Unit) : Running Unit := do
      try body
      catch
        | .exit k | .back k => Running.setStatus k
        | f => throw f
    finish (script text n)
    let s ← get
    set { s with traps := eraseKey 0 s.traps }
    script (Script.ofChars ((s.traps.lookup 0).getD [])) n
    throw (.exit s.status)
termination_by n => (n, 0)

/-- Puts a program, found as the shell finds commands, in the place of the one at
hand. Complaints begin with a given word. -/
def replace (before : String) (name : List Char) (args : List (List Char)) : Nat → Running Unit
  | 0 => throw .endless
  | n + 1 => do
    let s ← get
    let absent : Running Unit := do
      Running.complain (before.toList ++ name ++ ": not found".toList)
      throw (.exit 127)
    match find? s (searchPath s) name with
    | none => absent
    | some path =>
      match s.volume.load s.cwd path with
      | .ok image => program image.utility (image.words.map Octet.ofText ++ args) s.environment n
      | .error .noFormat =>
        program "sh" ("sh".toList :: Octet.ofText path :: args) s.environment n
      | .error e =>
        if e == .noEntry || e == .notDirectory then absent
        else do
          Running.complain (before.toList ++ name ++ ": ".toList ++ e.text.toList)
          throw (.exit 126)
termination_by n => (n, 0)

/-- Runs a utility of the system with its own words and variables, in the place of
the program at hand. -/
def program (utility : String) (words : List (List Char)) (env : Environment) : Nat → Running Unit
  | 0 => throw .endless
  | n + 1 => do
    modify fun s => { s with
      bindings := env.map fun (k, v) => (Octet.ofText k, Octet.ofText v)
      exported := env.map fun (k, _) => Octet.ofText k
      functions := [], status := 0, line := 0, options := [], tested := false, loops := 0
      locals := none, traps := s.traps.filter (·.2.isEmpty), caught := [] }
    let command := words.headD []
    match utility with
    | "sh" | "dash" =>
      let (options, rest?) := settings [] (words.drop 1)
      modify fun s => { s with options := options.filter (· != 'c'), name := command }
      enter (← get).cwd
      match options.contains 'c', rest?.getD [] with
      | true, text :: rest =>
        modify fun s => { s with name := rest.headD command, args := rest.drop 1 }
        shell (Script.ofChars text) n
      | false, path :: rest =>
        let s ← get
        match s.volume.read s.cwd (Octet.toText path) with
        | .ok bytes =>
          set { s with name := path, args := rest }
          shell (Script.ofChars (Octet.ofBytes bytes)) n
        | .error e =>
          Expand.abort ("cannot open ".toList ++ path ++ ": ".toList ++ (Running.openReason false e).toList)
      | _, [] =>
        let cs ← Utility.takeInput
        shell (Script.ofChars cs) n
    | "env" =>
      let isSetting (w : List Char) : Bool := w.contains '='
      let settings := (words.drop 1).takeWhile isSetting
      let env := settings.foldl (fun e w =>
        let (name, value?) := assignment w
        e.set (Octet.toText name) (Octet.toText (value?.getD []))) env
      match words.drop (settings.length + 1) with
      | [] =>
        for (k, v) in env do
          let _ ← Running.write 1 (Octet.ofText k ++ '=' :: Octet.ofText v ++ ['\n'])
        throw (.exit 0)
      | target :: rest =>
        let s ← get
        let missing : Running Unit := do
          Utility.say command s!"{Utility.shown target}: No such file or directory"
          throw (.exit 127)
        match find? s ((env.get? "PATH").getD "/bin:/usr/bin") target with
        | none => missing
        | some path =>
          match s.volume.load s.cwd path with
          | .ok image => program image.utility (image.words.map Octet.ofText ++ rest) env n
          | .error .noEntry => missing
          | .error e => do
            Utility.say command s!"{Utility.shown target}: {e.text}"
            throw (.exit 126)
    | _ =>
      let status ← Utility.run utility command (words.drop 1)
      throw (.exit status)
termination_by n => (n, 0)

end

end Run

end TexBuild.Shell
