import TexBuild.Text.Lines

namespace TexBuild.Command

/-- An option of a command: its long name, its letter if it has one, and whether a
value follows it. -/
structure OptionSpec where
  name : String
  letter : Option Char
  takesValue : Bool

/-- An option as it was given. -/
structure Given where
  name : String
  value : Option String
deriving DecidableEq

/-- The words of a command line once its options are told from the rest. -/
structure Words where
  options : List Given
  rest : List String
deriving DecidableEq

namespace Words

/-- Splits a text at the first equals sign. -/
def splitValue (cs : List Char) : List Char × Option (List Char) :=
  let name := cs.takeWhile (· != '=')
  (name, if name.length < cs.length then some (cs.drop (name.length + 1)) else none)

/-- The options in a group of letters, and the words after the group. A letter that
takes a value takes the rest of the group, or else the next word. Nothing when a
letter stands for no option or its value is missing. -/
def letters? (specs : List OptionSpec) : List Char → List String → Option (List Given × List String)
  | [], words => some ([], words)
  | c :: cs, words =>
    match specs.find? fun s => s.letter == some c with
    | none => none
    | some s =>
      if s.takesValue then
        match cs, words with
        | [], [] => none
        | [], w :: more => some ([⟨s.name, some w⟩], more)
        | cs, words => some ([⟨s.name, some (String.ofList cs)⟩], words)
      else (letters? specs cs words).map fun r => (⟨s.name, none⟩ :: r.1, r.2)

/-- The option that a word opens with two dashes, and the words after it. -/
def long? (specs : List OptionSpec) (word : List Char) (words : List String) :
    Option (List Given × List String) :=
  let (name, value) := splitValue word
  match specs.find? fun s => s.name.toList == name with
  | none => none
  | some s =>
    match s.takesValue, value, words with
    | true, some v, _ => some ([⟨s.name, some (String.ofList v)⟩], words)
    | true, none, w :: more => some ([⟨s.name, some w⟩], more)
    | true, none, [] => none
    | false, some _, _ => none
    | false, none, _ => some ([⟨s.name, none⟩], words)

/-- Tells the options of a command line from the rest. Two dashes alone end the
options; if `mixed` is not set, the first other word does. -/
def parseWith (specs : List OptionSpec) (mixed : Bool) : Nat → List String → Option Words
  | 0, _ => none
  | _ + 1, [] => some ⟨[], []⟩
  | n + 1, w :: more =>
    let go (r : Option (List Given × List String)) : Option Words :=
      r.bind fun (given, left) =>
        (parseWith specs mixed n left).map fun ws => ⟨given ++ ws.options, ws.rest⟩
    match w.toList with
    | ['-', '-'] => some ⟨[], more⟩
    | '-' :: '-' :: name => go (long? specs name more)
    | '-' :: c :: cs => go (letters? specs (c :: cs) more)
    | _ =>
      if mixed then (parseWith specs mixed n more).map fun ws => ⟨ws.options, w :: ws.rest⟩
      else some ⟨[], w :: more⟩

/-- Tells the options of a command line from the rest; each round takes at least
one word. -/
def parse (specs : List OptionSpec) (mixed : Bool) (words : List String) : Option Words :=
  parseWith specs mixed (words.length + 1) words

/-- An option was given. -/
def has (ws : Words) (name : String) : Bool :=
  ws.options.any fun g => g.name == name

/-- The value of an option; of several the last one counts. -/
def value? (ws : Words) (name : String) : Option String :=
  (ws.options.reverse.find? fun g => g.name == name).bind (·.value)

end Words

end TexBuild.Command
