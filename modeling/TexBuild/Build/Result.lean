import TexBuild.Number.Seconds
import TexBuild.Path.Basic

namespace TexBuild

/-- Why a build left no document at its place. -/
inductive Failure where
  | environment
  | toolMissing
  | compilation
  | relocation
  | cancelled
  | timeout
deriving DecidableEq, Repr

namespace Failure

/-- All kinds of failure. -/
def all : List Failure :=
  [.environment, .toolMissing, .compilation, .relocation, .cancelled, .timeout]

theorem mem_all (f : Failure) : f ∈ all := by
  cases f <;> simp [all]

/-- The word for a kind of failure. -/
def text : Failure → String
  | .environment => "environment"
  | .toolMissing => "tool_missing"
  | .compilation => "compilation"
  | .relocation => "relocation"
  | .cancelled => "cancelled"
  | .timeout => "timeout"

/-- The kind of failure that a word stands for. -/
def ofText? (word : String) : Option Failure :=
  all.find? (fun f => f.text == word)

end Failure

/-- How a build ended: with the document at its place, or with the cause that
kept it away. -/
inductive Outcome where
  | built (artifact : Path)
  | failed (failure : Failure) (message : String)
deriving DecidableEq

/-- The result of one build. -/
structure BuildResult where
  outcome : Outcome
  rawLog : String
  duration : Seconds
deriving DecidableEq

/-- Why four separate fields describe no outcome. -/
inductive OutcomeError where
  | noArtifact
  | causeOfSuccess
  | artifactOfFailure
  | noCause
deriving DecidableEq, Repr

/-- The outcome that four separate fields describe. A success has an artifact and
no cause; a failure has both a kind and a message that is not empty. -/
def Outcome.ofFields (success : Bool) (artifact : Option Path) (message : Option String)
    (failure : Option Failure) : Except OutcomeError Outcome :=
  if success then
    match artifact with
    | none => .error .noArtifact
    | some path =>
      if message.isSome || failure.isSome then .error .causeOfSuccess else .ok (.built path)
  else if artifact.isSome then .error .artifactOfFailure
  else
    match message, failure with
    | some text, some kind => if text = "" then .error .noCause else .ok (.failed kind text)
    | _, _ => .error .noCause

namespace BuildResult

/-- The document is at its place. -/
def success (r : BuildResult) : Bool :=
  match r.outcome with
  | .built _ => true
  | .failed .. => false

/-- The document, if there is one. -/
def artifact? (r : BuildResult) : Option Path :=
  match r.outcome with
  | .built path => some path
  | .failed .. => none

/-- The cause of a failure in words. -/
def message? (r : BuildResult) : Option String :=
  match r.outcome with
  | .built _ => none
  | .failed _ message => some message

/-- The kind of a failure. -/
def failure? (r : BuildResult) : Option Failure :=
  match r.outcome with
  | .built _ => none
  | .failed failure _ => some failure

end BuildResult

end TexBuild
