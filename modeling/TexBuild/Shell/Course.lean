import TexBuild.Build.Programs
import TexBuild.Shell.Run

namespace TexBuild.Shell

/-- The whole microseconds of a span; none when it never ends. A span that is not a
number is over at once. -/
def microseconds? : Seconds → Option Nat
  | .whole n => some (n.toNat * 1000000)
  | .binary (.finite negative m e) =>
    let (num, den) := Binary64.fraction m e
    some (if negative then 0 else num * 1000000 / den)
  | .binary (.infinite negative) => if negative then some 0 else none
  | .binary .nan => some 0

/-- A run of a program: what it left, when and how it ended, if it did, and the
moment from which it was to be stopped. -/
structure Course where
  state : State
  ending : Option Ending
  stopped : Bool
  stop : Option Nat

/-- The work that a program may do before it counts as one that never ends. -/
def workLimit : Nat := 10000

/-- How a program ends by itself. -/
def endingOf : Except Flow Unit → State → Option Ending
  | .ok _, s | .error (.leave _), s | .error (.again _), s => some (.code (s.status % 256))
  | .error (.exit n), _ | .error (.back n), _ => some (.code (n % 256))
  | .error (.killed _ n), _ => some (.signal n)
  | .error .endless, _ => none

/-- Runs a program. -/
def course (launch : Launch) (image : Image) (v : Volume) (ports : List (Nat × Port))
    (watch : Watch) : Course :=
  let directory := (launch.station v).toOption.getD launch.directory
  let start : State := State.look
    { number := ownNumber, volume := v, cwd := directory, bindings := [], exported := [], functions := []
      name := [], args := [], status := 0, line := 0, options := [], tested := false, loops := 0
      locals := none, traps := [], caught := [], ports := ports, inputs := #[], kept := [], clock := 0
      moments := [], holds := [], jobsEnd := 0, watch := watch, isMain := true }
  let words := (image.words ++ launch.arguments).map Octet.ofText
  let body : Running Unit := do
    Running.checkTime
    Run.program image.utility words launch.environment workLimit
  let (flow, s) := (body.run start).run
  let stop := s.stop?
  match flow with
  | .error .endless =>
    match stop with
    | some t => ⟨{ s with clock := max t s.clock }, some (.signal 9), true, stop⟩
    | none => ⟨s, none, false, stop⟩
  | .error (.killed _ 9) =>
    ⟨s, some (.signal 9), (stop.map fun t => decide (t ≤ s.clock)).getD false, stop⟩
  | flow => ⟨s, endingOf flow s, false, stop⟩

namespace Course

/-- When the last writer of a stream is gone, if that ever comes. -/
def hangUp? (c : Course) (stream : Stream) : Option Nat :=
  match c.ending with
  | none => none
  | some _ =>
    (c.state.holds.filter fun h => h.stream == stream).foldl (fun latest h =>
      match latest, h.until? with
      | some a, some b => some (max a b)
      | _, _ => none) (some c.state.clock)

/-- When all is over, if that ever comes. -/
def finished? (c : Course) : Option Nat :=
  match c.hangUp? .stdout, c.hangUp? .stderr with
  | some a, some b => some (max a b)
  | _, _ => none

/-- The events of a run with their times, in order. Everything that is written is
read at once. -/
def timeline (c : Course) : List (Nat × List Event) :=
  let writes := c.state.moments.reverse.map fun m =>
    (m.time, [Event.wrote m.stream (Octet.toBytes m.octets), .read m.stream m.octets.length])
  let ends := match c.ending with
    | some e => if c.stopped then [] else [(c.state.clock, [Event.ended e, .reaped])]
    | none => []
  let hangUps := [Stream.stdout, .stderr].filterMap fun stream =>
    (c.hangUp? stream).map fun t => (t, [Event.hungUp stream, .read stream 1])
  (writes ++ ends ++ hangUps).mergeSort fun a b => decide (a.1 ≤ b.1)

/-- How long what is left of the output is awaited. -/
def leftoverSpan : Nat := 200000

/-- The interruption of a run, if one comes before it is over. -/
def interruption? (c : Course) (limit : Option Nat) : Option (Nat × Event) :=
  match c.stop with
  | none => none
  | some t =>
    let inTime := (c.finished?.map fun o => decide (o < t)).getD false
    if inTime && !c.stopped then none
    else some (t, if limit = some t then .deadline else .cancelled)

/-- The cancellation that comes after another interruption. -/
def lateCancellation? (c : Course) (t : Nat) : Option (Nat × List Event) :=
  match c.state.watch.seen with
  | none => none
  | some seen =>
    if t < seen + c.state.watch.delay then some (seen + c.state.watch.delay, [.cancelled]) else none

/-- What is seen of a run. -/
def events (c : Course) (limit : Option Nat) : List Event :=
  match c.interruption? limit with
  | none => .started :: c.timeline.flatMap (·.2)
  | some (t, why) =>
    let earlier := c.timeline.filter fun e => e.1 < t
    let rest := (c.timeline ++ (c.lateCancellation? t).toList).mergeSort fun a b => decide (a.1 ≤ b.1)
    let later := rest.filter fun e => t ≤ e.1 ∧ e.1 ≤ t + leftoverSpan
    let death := if c.stopped then [Event.ended (.signal 9), .reaped] else []
    .started :: earlier.flatMap (·.2) ++ why :: death ++ later.flatMap (·.2) ++ [.leftoverOver]

end Course

/-- How long an answer is awaited; a span that is not a number never ends. -/
def patience? : Seconds → Option Nat
  | .binary .nan => none
  | s => microseconds? s

/-- The time between the sight of the path that asks for it and a cancellation. -/
def cancelDelay : Nat := 100000

/-- Programs that are scripts of the shell or utilities of the system. A path may be
given whose appearance cancels a build. -/
def programs (cancelOn : Option String) : Programs where
  answers limit launch image v :=
    let bound := patience? limit
    let ports := [(0, Port.nothing), (1, .nothing), (2, .nothing)]
    let c := course launch image v ports ⟨bound, none, 0, none⟩
    let inTime := match bound with
      | some t => decide (c.state.clock < t)
      | none => true
    (c.ending == some (.code 0) && !c.stopped && inTime, c.state.volume)
  shows limit launch image v :=
    let bound := limit.bind microseconds?
    let ports := [(0, Port.nothing), (1, .pipe .stdout), (2, .pipe .stderr)]
    let c := course launch image v ports ⟨bound, cancelOn, cancelDelay, none⟩
    ⟨c.events bound, c.state.volume⟩

/-- The directories of a system. -/
def systemDirectories : List (List String × Nat) :=
  [(["usr"], 0o755), (["usr", "bin"], 0o755), (["usr", "local"], 0o755),
    (["usr", "local", "bin"], 0o755), (["dev"], 0o755), (["tmp"], 0o777), (["var"], 0o755),
    (["var", "tmp"], 0o777), (["root"], 0o700), (["etc"], 0o755), (["opt"], 0o755),
    (["home"], 0o755), (["usr", "lib"], 0o755), (["proc"], 0o755), (["mnt"], 0o755),
    (["srv"], 0o755), (["run"], 0o755)]

/-- The place that names lead to from the root. -/
def placeOf (names : List String) : Loc :=
  (names.filterMap fun n => Name.ofChars? n.toList).reverse

/-- A volume with the directories and the utilities of a system. -/
def systemVolume : Volume :=
  let empty : Volume := ⟨[], [], 0, []⟩
  let dirs := systemDirectories.foldl (fun v (names, mode) => v.put (placeOf names) (.directory mode)) empty
  let tools := Utility.names.foldl (fun v name =>
    v.putFile (placeOf ["usr", "bin", name]) ⟨Volume.utilityBytes name, 0o755⟩) dirs
  let withLinks := (tools.put (placeOf ["bin"]) (.link "usr/bin")).put (placeOf ["dev", "null"]) (.sink 0)
  withLinks.put (placeOf ["usr", "bin", "sh"]) (.link "dash")

end TexBuild.Shell
