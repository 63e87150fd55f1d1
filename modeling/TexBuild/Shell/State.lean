import TexBuild.Build.Supervision
import TexBuild.Environment
import TexBuild.Shell.Script
import TexBuild.Volume.Image

namespace TexBuild.Shell

/-- What a descriptor leads to: a pipe to whoever started the program, a file, a text
that is read, output that is kept, or nothing. A text is read once, whichever
descriptors lead to it. -/
inductive Port where
  | pipe (stream : Stream)
  | file (id : Nat)
  | input (id : Nat)
  | kept
  | nothing
deriving DecidableEq

/-- Octets that were written to a pipe, and when. -/
structure Moment where
  time : Nat
  stream : Stream
  octets : List Char

/-- A program other than the main one that has a pipe open, and until when; never
ending ones have no time. -/
structure Hold where
  stream : Stream
  until? : Option Nat

/-- How long the main program may run, in microseconds: up to a moment, and up to
a span after a path is seen on the volume. -/
structure Watch where
  limit : Option Nat
  path : Option String
  delay : Nat
  seen : Option Nat

/-- A program at work. Times are microseconds since the start. Inside a function the
variables that are local to it are remembered with the values to come back; inside a
condition a failure does not end a strict script. Traps tell what is done at a signal
that is caught; signal zero is the end of the script. -/
structure State where
  number : Nat
  volume : Volume
  cwd : Loc
  bindings : List (List Char × List Char)
  exported : List (List Char)
  functions : List (List Char × Command)
  name : List Char
  args : List (List Char)
  status : Nat
  line : Nat
  options : List Char
  tested : Bool
  loops : Nat
  locals : Option (List (List Char × Option (List Char)))
  traps : List (Nat × List Char)
  caught : List Nat
  ports : List (Nat × Port)
  inputs : Array (List Char)
  kept : List Char
  clock : Nat
  moments : List Moment
  holds : List Hold
  jobsEnd : Nat
  watch : Watch
  isMain : Bool

/-- Why a run of commands ends before its last one. -/
inductive Flow where
  | exit (status : Nat)
  | leave (depth : Nat)
  | again (depth : Nat)
  | back (status : Nat)
  | killed (number signal : Nat)
  | endless
deriving DecidableEq

/-- A run of commands: the state is kept however it ends. -/
abbrev Running := ExceptT Flow (StateM State)

/-- The number under which the main program goes. The job that a program has started
goes under the next one. -/
def ownNumber : Nat := 4242

/-- The octets of a number. -/
def numeral (n : Int) : List Char :=
  (toString n).toList

namespace State

/-- The text of a variable. -/
def text? (s : State) (name : List Char) : Option (List Char) :=
  s.bindings.lookup name

/-- The moment at which the main program is stopped from outside. -/
def stop? (s : State) : Option Nat :=
  if s.isMain then
    match s.watch.limit, s.watch.seen with
    | some a, some b => some (min a (b + s.watch.delay))
    | some a, none => some a
    | none, some b => some (b + s.watch.delay)
    | none, none => none
  else none

/-- The state in which the watched path has been looked for. -/
def look (s : State) : State :=
  match s.watch.path, s.watch.seen with
  | some path, none =>
    match s.volume.find [] path with
    | .ok _ => { s with watch := { s.watch with seen := some s.clock } }
    | .error _ => s
  | _, _ => s

/-- The place of a variable among the others, found from the octets of its name. -/
def shelf (name : List Char) : Nat :=
  (name.foldl (fun total c => total + c.toNat) ((name.headD (Char.ofNat 0)).toNat * 16)) % 39

/-- The variables that programs started from here get, in the order of their
shelves. -/
def environment (s : State) : Environment :=
  let names := s.exported.mergeSort fun a b => decide (shelf a ≤ shelf b)
  names.filterMap fun name =>
    (s.text? name).map fun text => (Octet.toText name, Octet.toText text)

end State

namespace Running

def setStatus (n : Nat) : Running Unit :=
  modify fun s => { s with status := n }

def setVariable (name text : List Char) : Running Unit :=
  modify fun s => { s with bindings := insertKey name text s.bindings }

def setVolume (v : Volume) : Running Unit :=
  modify fun s => { s with volume := v }.look

def setPort (fd : Nat) (p : Port) : Running Unit :=
  modify fun s => { s with ports := insertKey fd p s.ports }

/-- Lets a descriptor lead to a text. -/
def setInput (fd : Nat) (text : List Char) : Running Unit :=
  modify fun s => { s with
    ports := insertKey fd (.input s.inputs.size) s.ports
    inputs := s.inputs.push text }

/-- What is left to read on the input. -/
def inputLeft : Running (List Char) := do
  let s ← get
  match s.ports.lookup 0 with
  | some (.input id) => return s.inputs[id]?.getD []
  | _ => return []

/-- Reads the input up to what is to be left of it. -/
def leaveInput (left : List Char) : Running Unit :=
  modify fun s => match s.ports.lookup 0 with
    | some (.input id) => { s with inputs := s.inputs.setIfInBounds id left }
    | _ => s

/-- Writes octets to a descriptor; there may be none. -/
def write (fd : Nat) (cs : List Char) : Running Bool := do
  let s ← get
  match s.ports.lookup fd with
  | some (.pipe stream) =>
    unless cs.isEmpty do set { s with moments := ⟨s.clock, stream, cs⟩ :: s.moments }
    return true
  | some (.file id) =>
    match s.volume.data? id with
    | some d =>
      set { s with volume := s.volume.putData id { d with bytes := d.bytes ++ Octet.toBytes cs } }
      return true
    | none => return true
  | some .kept =>
    set { s with kept := cs.reverse ++ s.kept }
    return true
  | some .nothing => return true
  | some (.input _) | none => return false

/-- A complaint of the script at hand on the error stream. -/
def complain (text : List Char) : Running Unit := do
  let s ← get
  let _ ← write 2 (s.name ++ ": ".toList ++ numeral s.line ++ ": ".toList ++ text ++ ['\n'])

/-- Lets time pass for the program itself, which may be stopped meanwhile. -/
def pass (span : Nat) : Running Unit := do
  let s ← get
  let finish := s.clock + span
  match s.stop? with
  | some t =>
    if t < finish then do
      set { s with clock := max t s.clock }
      throw (.killed s.number 9)
    else set { s with clock := finish }
  | none => set { s with clock := finish }

/-- Ends the program if its time is over. -/
def checkTime : Running Unit := do
  let s ← get
  match s.stop? with
  | some t => if t ≤ s.clock then throw (.killed s.number 9)
  | none => return

/-- The pipes that programs started from here have open. -/
def openPipes (s : State) : List Stream :=
  [.stdout, .stderr].filter fun stream => s.ports.any fun p => p.2 == .pipe stream

/-- How a program that was started ends: its status as the starting one sees it,
or never. -/
def endStatus : Except Flow Unit → State → Option Nat
  | .ok _, s => some s.status
  | .error (.exit n), _ | .error (.back n), _ => some (n % 256)
  | .error (.leave _), s | .error (.again _), s => some s.status
  | .error (.killed _ n), _ => some (128 + n)
  | .error .endless, _ => none

/-- The state after a program that was started has done its work: what it changed
on the volume and wrote is there, all else is as before. -/
def returned (s inner : State) (finish : Nat) : State :=
  { s with
    volume := inner.volume
    kept := inner.kept
    moments := inner.moments
    holds := inner.holds
    watch := inner.watch
    inputs := inner.inputs
    clock := finish }

/-- What is said of a program that a signal has ended. -/
def obituary? (signal : Nat) : Option String :=
  [(1, "Hangup"), (3, "Quit"), (4, "Illegal instruction"), (5, "Trace/breakpoint trap"),
    (6, "Aborted"), (7, "Bus error"), (8, "Floating point exception"), (9, "Killed"),
    (10, "User defined signal 1"), (11, "Segmentation fault"), (12, "User defined signal 2"),
    (14, "Alarm clock"), (15, "Terminated")].lookup signal

/-- Starts a program and waits for it. If the main program is stopped meanwhile,
the other one goes on and keeps its pipes open. A signal that ends the program is
told, unless it was meant for the one that waits. -/
def foreground (body : Running Unit) : Running Unit := do
  let s ← get
  let (end_, inner) := (body.run { s with isMain := false }).run
  let after := { inner with isMain := s.isMain }
  let finish := endStatus end_ inner
  let outlives := match after.stop?, finish with
    | some t, some _ => decide (t < inner.clock)
    | some _, none => true
    | none, _ => false
  if outlives then
    let t := (after.stop?.getD 0)
    set { returned s inner (max t s.clock) with
      holds := (openPipes s).map (fun stream => Hold.mk stream (finish.map fun _ => inner.clock)) ++ inner.holds }
    throw (.killed s.number 9)
  match finish with
  | none => do
    set (returned s inner inner.clock)
    throw .endless
  | some n =>
    set { returned s inner inner.clock with status := n }
    match end_ with
    | .error (.killed number signal) =>
      if number = s.number then throw (.killed number signal)
      match obituary? signal with
      | some text =>
        let _ ← write 2 (text.toList ++ ['\n'])
      | none => return
    | _ => return

/-- Does something as a program of its own number. -/
def renumbered (body : Running Unit) : Running Unit := do
  modify fun s => { s with number := s.number + 2 }
  body

/-- Does something in a place where a failure is looked at. -/
def testing (body : Running Unit) : Running Unit :=
  fun s =>
    match body.run { s with tested := true } with
    | (r, s') => (r, { s' with tested := s.tested })

/-- Ends a strict script after a failure that nobody looks at. -/
def checkFailure : Running Unit := do
  let s ← get
  if s.status ≠ 0 ∧ !s.tested ∧ s.options.contains 'e' then throw (.exit s.status)

/-- Starts a program and goes on beside it. -/
def background (body : Running Unit) : Running Unit := do
  let s ← get
  let ports := s.ports.map fun (fd, p) => if fd = 0 then (fd, Port.nothing) else (fd, p)
  let (end_, inner) := (body.run { s with isMain := false, ports := ports }).run
  let finish := (endStatus end_ inner).map fun _ => inner.clock
  set { returned s inner s.clock with
    holds := (openPipes s).map (fun stream => Hold.mk stream finish) ++ inner.holds
    jobsEnd := max s.jobsEnd inner.clock
    status := 0 }

/-- What a program writes to its output stream, together with the end of the
program. -/
def outputOf (body : Running Unit) : Running (List Char) := do
  let s ← get
  set { s with ports := insertKey 1 Port.kept s.ports, kept := [] }
  foreground body
  let inner ← get
  set { inner with ports := s.ports, kept := s.kept }
  return inner.kept.reverse

end Running

end TexBuild.Shell
