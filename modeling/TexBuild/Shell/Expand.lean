import TexBuild.Shell.Arithmetic
import TexBuild.Shell.Field

namespace TexBuild.Shell

namespace Expand

/-- How the output of commands is had. -/
abbrev Substitution := List Command → Running (List Char)

/-- The gaps at which values are cut. -/
def gaps (s : State) : Gaps :=
  .ofText? (s.text? "IFS".toList)

/-- What stands between the arguments when they are joined. -/
def joint (s : State) : List Char :=
  match s.text? "IFS".toList with
  | some cs => cs.take 1
  | none => [' ']

/-- The value of a parameter, if it has one. -/
def value? (s : State) (name : List Char) : Option (List Char) :=
  match name with
  | ['#'] => some (numeral s.args.length)
  | ['?'] => some (numeral s.status)
  | ['$'] => some (numeral s.number)
  | ['0'] => some s.name
  | ['-'] => some s.options
  | ['!'] => some (numeral (s.number + 1))
  | ['@'] | ['*'] =>
    if s.args = [] then none else some (List.intercalate (joint s) s.args)
  | _ =>
    if name.all Char.isDigit then s.args[valueOfDigits name - 1]?
    else s.text? name

/-- The marks of a value. -/
def marksOf (quoted : Bool) (cs : List Char) : List Mark :=
  cs.map fun c => if quoted then .fixed c else .loose c

/-- The marks of all arguments, each a field of its own. -/
def allArgs (quoted : Bool) (args : List (List Char)) : List Mark :=
  List.intercalate [.cut] (args.map fun a =>
    if quoted then .edge :: marksOf true a else marksOf false a)

/-- Whether pieces ask for all arguments as fields. -/
def asksForAll (pieces : List Piece) : Bool :=
  pieces.any fun
    | .parameter ['@'] .keep => true
    | _ => false

/-- A complaint after which the script ends. -/
def abort {α : Type} (text : List Char) : Running α := do
  Running.complain text
  throw (.exit 2)

mutual

/-- The marks of a piece. -/
def piece (output : Substitution) (quoted : Bool) : Nat → Piece → Running (List Mark)
  | 0, _ => return []
  | n + 1, p => do
    match p with
    | .literal cs => return cs.map fun c => if quoted then .fixed c else .plain c
    | .quoted inner =>
      let marks ← pieces output true n inner
      return if marks.isEmpty && !asksForAll inner then [.edge] else marks
    | .sum inner =>
      let cs := Mark.text (← pieces output true n inner)
      let s ← get
      match Arithmetic.evaluate (fun name => (s.text? name).getD []) cs with
      | .ok (k, vars) =>
        for (name, v) in vars.reverse do Running.setVariable name (numeral v)
        return marksOf quoted (numeral k)
      | .error e =>
        if "Illegal".toList.isPrefixOf e.toList then abort e.toList
        else
          abort ("arithmetic expression: ".toList ++ e.toList ++ ": \"".toList ++ cs ++ ['"'])
    | .output body =>
      let cs ← output body
      return marksOf quoted ((cs.reverse.dropWhile (· == '\n')).reverse.filter fun c => c.toNat != 0)
    | .parameter name change => parameter output quoted name change n
termination_by n => (n, 0)

/-- The marks of the value of a parameter. -/
def parameter (output : Substitution) (quoted : Bool) (name : List Char) (change : Change) :
    Nat → Running (List Mark)
  | 0 => return []
  | n + 1 => do
    let s ← get
    let found := value? s name
    let pattern (inner : List Piece) : Running (List Matcher) := do
      let marks ← pieces output false n inner
      return Shell.pattern (marks.filterMap Mark.patternChar?)
    let isFallback := match change with
      | .fallback .. => true
      | _ => false
    if found.isNone ∧ !isFallback ∧ name ≠ ['@'] ∧ name ≠ ['*'] ∧ s.options.contains 'u' then
      abort (name ++ ": parameter not set".toList)
    match change with
    | .keep =>
      if name = ['@'] || (name = ['*'] && !quoted) then return allArgs quoted s.args
      else return marksOf quoted (found.getD [])
    | .size => return marksOf quoted (numeral (found.getD []).length)
    | .cutStart longest inner =>
      let ms ← pattern inner
      return marksOf quoted (cutStart ms longest (found.getD []))
    | .cutEnd longest inner =>
      let ms ← pattern inner
      return marksOf quoted (cutEnd ms longest (found.getD []))
    | .fallback kind orEmpty inner =>
      let given := match found with
        | none => false
        | some cs => !(orEmpty && cs.isEmpty)
      match kind, given with
      | .replace, true => pieces output quoted n inner
      | .replace, false => return []
      | _, true => return marksOf quoted (found.getD [])
      | .use, false => pieces output quoted n inner
      | .assign, false => do
        let cs := Mark.text (← pieces output quoted n inner)
        Running.setVariable name cs
        return marksOf quoted cs
      | .complain, false => do
        let cs := Mark.text (← pieces output quoted n inner)
        let reason := if cs.isEmpty then
            (if orEmpty then "parameter not set or null" else "parameter not set").toList
          else cs
        abort (name ++ ": ".toList ++ reason)
termination_by n => (n, 0)

/-- The marks of pieces, one after the other. -/
def pieces (output : Substitution) (quoted : Bool) : Nat → List Piece → Running (List Mark)
  | 0, _ => return []
  | _ + 1, [] => return []
  | n + 1, p :: rest => do
    let first ← piece output quoted n p
    return first ++ (← pieces output quoted n rest)
termination_by n => (n, 0)

end

/-- The most pieces that are looked at inside one word. -/
def depth : Nat := 10000

/-- The directory that a tilde at the beginning of a word stands for. -/
def tilde (word : Word) : Running Word := do
  match word with
  | .literal ('~' :: rest) :: more =>
    if rest = [] && more.isEmpty || rest.head? = some '/' then
      match (← get).text? "HOME".toList with
      | some home => return .quoted [.literal home] :: .literal rest :: more
      | none => return word
    else return word
  | _ => return word

/-- The one text that a word stands for. -/
def text (output : Substitution) (word : Word) : Running (List Char) := do
  return Mark.text (← pieces output false depth (← tilde word))

/-- The fields that words stand for. -/
def fields (output : Substitution) (words : List Word) : Running (List (List Char)) := do
  let mut done : List (List Char) := []
  for w in words do
    let marks ← pieces output false depth (← tilde w)
    let s ← get
    done := done ++ (Mark.fields (gaps s) marks).flatMap (Field.texts s)
  return done

/-- The pattern that a word stands for. -/
def pattern (output : Substitution) (word : Word) : Running (List Matcher) := do
  let marks ← pieces output false depth word
  return Shell.pattern (marks.filterMap Mark.patternChar?)

end Expand

end TexBuild.Shell
