import TexBuild.Host
import TexBuild.Report.Notice

namespace TexBuild

/-- Everything that an operation finds and leaves: what is around it, the journal
so far, and the commands that were asked for their version, each in order. What the
clock reads when a build begins and when it ends is given with the rest. -/
structure Session where
  host : Host
  journal : List Notice
  asked : List String
  timing : Timing

/-- An operation on a session. What it has changed stays when a fault ends it. -/
abbrev Act := ExceptT Fault (StateM Session)

namespace Act

/-- Runs an operation. -/
def runOn {α : Type} (a : Act α) (s : Session) : Except Fault α × Session :=
  (a.run s).run

/-- What is around. -/
def host : Act Host := do
  return (← get).host

/-- How long a build takes, as the clock has it. -/
def elapsed : Act Seconds := do
  return (← get).timing.elapsed

/-- Puts another volume in the place of the one at hand. -/
def setVolume (v : Volume) : Act Unit :=
  modify fun s => { s with host := { s.host with volume := v } }

/-- Adds a record to the journal. -/
def tell (n : Notice) : Act Unit :=
  modify fun s => { s with journal := s.journal ++ [n] }

/-- Adds records to the journal. -/
def tellAll (ns : List Notice) : Act Unit :=
  modify fun s => { s with journal := s.journal ++ ns }

/-- Notes that a command was asked for its version. -/
def noteAsked (command : String) : Act Unit :=
  modify fun s => { s with asked := s.asked ++ [command] }

/-- The result of an operation or its fault, as a value. -/
def attempt {α : Type} (a : Act α) : Act (Except Fault α) :=
  fun s => match a s with
    | (r, s') => (.ok r, s')

/-- The value of a computation on the host, which changes nothing. -/
def ask {α : Type} (f : Host → Except Fault α) : Act α := do
  MonadExcept.ofExcept (f (← host))

end Act

end TexBuild
