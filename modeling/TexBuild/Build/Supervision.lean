import TexBuild.Text.Utf8

namespace TexBuild

/-- The two streams on which an engine writes. -/
inductive Stream where
  | stdout
  | stderr
deriving DecidableEq, Repr

/-- The log of a build: what the engine wrote to its two streams, in whatever
pieces it came, decoded each for itself with a line feed between. -/
def joinOutput (stdout stderr : List (List UInt8)) : List Char :=
  Utf8.decode stdout.flatten ++ '\n' :: Utf8.decode stderr.flatten

/-- How a program ended: by itself with a code, or by a signal. -/
inductive Ending where
  | code (n : Nat)
  | signal (n : Nat)
deriving DecidableEq, Repr

/-- The end of a program as a number; signals count below zero. -/
def Ending.status : Ending → Int
  | .code n => n
  | .signal n => -n

/-- What can end the wait for an engine before the engine ends. -/
inductive Interruption where
  | deadline
  | cancellation
deriving DecidableEq, Repr

/-- What can happen while an engine is watched, in any order that the world
chooses. The engine, or what it has started, writes octets to a stream; the last
one that could write there is gone; the reader of a stream gets its turn; the
engine ends, and its end is noticed. -/
inductive Event where
  | started
  | wrote (stream : Stream) (octets : List UInt8)
  | hungUp (stream : Stream)
  | read (stream : Stream) (size : Nat)
  | ended (ending : Ending)
  | reaped
  | deadline
  | cancelled
  | leftoverOver
deriving DecidableEq

/-- One of the two pipes of an engine: the octets that wait in it, the pieces that
were read, the newest first, whether anyone can still write, and whether the
reader has seen the end. -/
structure Pipe where
  pending : List UInt8
  chunks : List (List UInt8)
  isOpen : Bool
  drained : Bool
deriving DecidableEq

namespace Pipe

/-- A pipe nobody has written to. -/
def fresh : Pipe := ⟨[], [], true, false⟩

/-- Octets arrive as long as the pipe is open. -/
def write (p : Pipe) (octets : List UInt8) : Pipe :=
  if p.isOpen then { p with pending := p.pending ++ octets } else p

/-- The reader takes what is there, up to a size, or sees the end. -/
def read (p : Pipe) (size : Nat) : Pipe :=
  if p.drained then p
  else
    match p.pending with
    | [] => if p.isOpen then p else { p with drained := true }
    | _ :: _ =>
      if size = 0 then p
      else { p with pending := p.pending.drop size, chunks := p.pending.take size :: p.chunks }

/-- The pieces that were read, in their order. -/
def kept (p : Pipe) : List (List UInt8) :=
  p.chunks.reverse

end Pipe

/-- Whether an engine runs, has ended, or has ended and was noticed. -/
inductive Life where
  | running
  | gone (ending : Ending)
  | reaped (ending : Ending)
deriving DecidableEq

/-- How far the watch over an engine has come: its start is awaited; its output
and its end are; after an interruption what is left of its output is; then only
its end is. -/
inductive Phase where
  | starting
  | reading
  | leftover (why : Interruption)
  | waiting (why : Interruption)
  | over (why : Option Interruption)
  | escaped
deriving DecidableEq

/-- The watch over one engine. -/
structure Supervision where
  phase : Phase
  stdout : Pipe
  stderr : Pipe
  life : Life
  killSent : Bool
  incomplete : Bool
deriving DecidableEq

namespace Supervision

/-- The watch at its beginning. -/
def initial : Supervision :=
  ⟨.starting, .fresh, .fresh, .running, false, false⟩

/-- The pipe of a stream. -/
def pipe (s : Supervision) : Stream → Pipe
  | .stdout => s.stdout
  | .stderr => s.stderr

/-- The watch with another pipe for a stream. -/
def setPipe (s : Supervision) (stream : Stream) (p : Pipe) : Supervision :=
  match stream with
  | .stdout => { s with stdout := p }
  | .stderr => { s with stderr := p }

/-- Both readers have seen the end. -/
def isDrained (s : Supervision) : Bool :=
  s.stdout.drained && s.stderr.drained

/-- The end of the engine was noticed. -/
def isReaped (s : Supervision) : Bool :=
  match s.life with
  | .reaped _ => true
  | _ => false

/-- Ends the phase at hand once nothing is left to wait for in it. -/
def settle (s : Supervision) : Supervision :=
  match s.phase with
  | .reading => if s.isDrained && s.isReaped then { s with phase := .over none } else s
  | .leftover why =>
    if s.isDrained then { s with phase := if s.isReaped then .over (some why) else .waiting why }
    else s
  | .waiting why => if s.isReaped then { s with phase := .over (some why) } else s
  | _ => s

/-- Ends the wait for the output: the engine is killed, unless its end was noticed
already, and what is left of the output is awaited. -/
def interrupt (s : Supervision) (why : Interruption) : Supervision :=
  settle { s with phase := .leftover why, killSent := !s.isReaped }

/-- The readers are at work. -/
def isReading (s : Supervision) : Bool :=
  match s.phase with
  | .reading | .leftover _ => true
  | _ => false

/-- What an event does to the watch. One that cannot happen changes nothing. A
cancellation ends only the wait for the output in good order; everywhere else it
ends the watch itself. -/
def step (s : Supervision) : Event → Supervision
  | .started => if s.phase = .starting then { s with phase := .reading } else s
  | .wrote stream octets => s.setPipe stream ((s.pipe stream).write octets)
  | .hungUp stream => s.setPipe stream { s.pipe stream with isOpen := false }
  | .read stream size =>
    if s.isReading then settle (s.setPipe stream ((s.pipe stream).read size)) else s
  | .ended ending => if s.life = .running then { s with life := .gone ending } else s
  | .reaped =>
    match s.life with
    | .gone ending => settle { s with life := .reaped ending }
    | _ => s
  | .deadline => if s.phase = .reading then s.interrupt .deadline else s
  | .cancelled =>
    match s.phase with
    | .reading => s.interrupt .cancellation
    | .starting | .leftover _ | .waiting _ => { s with phase := .escaped }
    | .over _ | .escaped => s
  | .leftoverOver =>
    match s.phase with
    | .leftover why => settle { s with phase := .waiting why, incomplete := true }
    | _ => s

/-- The engine is started before the watch is cancelled. -/
def begins (events : List Event) : Bool :=
  events.find? (fun e => e == .started || e == .cancelled) == some .started

/-- The watch after events. -/
def run (events : List Event) : Supervision :=
  events.foldl step initial

/-- The log of the engine, as far as it was read. -/
def output (s : Supervision) : List Char :=
  joinOutput s.stdout.kept s.stderr.kept

end Supervision

end TexBuild
