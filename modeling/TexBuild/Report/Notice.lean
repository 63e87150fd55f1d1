namespace TexBuild

/-- How much a record of the journal matters. -/
inductive Level where
  | trace
  | debug
  | info
  | success
  | warning
  | error
  | critical
deriving DecidableEq, Repr

namespace Level

/-- All levels, the least first. -/
def all : List Level :=
  [.trace, .debug, .info, .success, .warning, .error, .critical]

/-- The word for a level. -/
def text : Level → String
  | .trace => "TRACE"
  | .debug => "DEBUG"
  | .info => "INFO"
  | .success => "SUCCESS"
  | .warning => "WARNING"
  | .error => "ERROR"
  | .critical => "CRITICAL"

/-- The level that a word stands for; it has to be in capitals. -/
def ofText? (word : String) : Option Level :=
  all.find? (fun l => l.text == word)

/-- The place of a level in the order. -/
def rank : Level → Nat
  | .trace => 5
  | .debug => 10
  | .info => 20
  | .success => 25
  | .warning => 30
  | .error => 40
  | .critical => 50

end Level

/-- A record of the journal. One that is `verbatim` is handed on without time,
level and line end. -/
structure Notice where
  level : Level
  text : String
  verbatim : Bool
deriving DecidableEq, Repr

namespace Notice

/-- A record on its own line. -/
def plain (level : Level) (text : String) : Notice :=
  ⟨level, text, false⟩

/-- A record about a build. -/
def build (level : Level) (text : String) : Notice :=
  plain level ("[build] " ++ text)

end Notice

end TexBuild
