import TexBuild.Shell.Arithmetic
import TexBuild.Text.Octet
import TexBuild.Volume.Change

namespace TexBuild.Shell.Condition

/-- The volume and the directory that a condition is about. -/
structure Setting where
  volume : Volume
  cwd : Loc

/-- What a path leads to, links followed. -/
def Setting.find? (s : Setting) (path : List Char) : Option Entry :=
  match s.volume.find s.cwd (Octet.toText path) with
  | .ok (_, e) => some e
  | .error _ => none

/-- The owner may do with what a path leads to what the mode says. -/
def Setting.allows (s : Setting) (allowed : Nat → Bool) (path : List Char) : Bool :=
  ((s.find? path).map fun e => allowed (s.volume.modeOf e)).getD false

/-- A condition on one text. -/
def unary? (s : Setting) (o : String) : Option (List Char → Bool) :=
  match o with
  | "-n" => some fun a => !a.isEmpty
  | "-z" => some List.isEmpty
  | "-e" => some fun a => (s.find? a).isSome
  | "-f" => some fun a => match s.find? a with
    | some (.file _) => true
    | _ => false
  | "-d" => some fun a => match s.find? a with
    | some (.directory _) => true
    | _ => false
  | "-p" => some fun a => match s.find? a with
    | some (.pipe _) => true
    | _ => false
  | "-c" => some fun a => match s.find? a with
    | some (.sink _) => true
    | _ => false
  | "-h" | "-L" => some fun a => match s.volume.findLink s.cwd (Octet.toText a) with
    | .ok (_, .link _) => true
    | _ => false
  | "-s" => some fun a => match s.find? a with
    | some (.file id) => ((s.volume.data? id).map fun d => !d.bytes.isEmpty).getD false
    | some (.directory _) => true
    | _ => false
  | "-r" => some (s.allows Volume.mayRead)
  | "-w" => some (s.allows Volume.mayWrite)
  | "-x" => some (s.allows Volume.mayEnter)
  | "-t" | "-b" | "-S" | "-g" | "-u" | "-k" => some fun _ => false
  | _ => none

/-- The number that a text of digits denotes. -/
def numberOf (cs : List Char) : Except String Int :=
  let blank (c : Char) := c == ' ' || c == '\t' || c == '\n'
  let inner := ((cs.dropWhile blank).reverse.dropWhile blank).reverse
  let (negative, digits) := match inner with
    | '-' :: ds => (true, ds)
    | '+' :: ds => (false, ds)
    | ds => (false, ds)
  if digits ≠ [] ∧ digits.all Char.isDigit then
    let n : Int := (valueOfDigits digits : Nat)
    .ok (if negative then -n else n)
  else .error s!"Illegal number: {String.ofList cs}"

/-- A condition on two texts. -/
def binary? (o : String) : Option (List Char → List Char → Except String Bool) :=
  let numbers (f : Int → Int → Bool) (a b : List Char) : Except String Bool := do
    return f (← numberOf a) (← numberOf b)
  match o with
  | "=" | "==" => some fun a b => .ok (a == b)
  | "!=" => some fun a b => .ok (a != b)
  | "<" => some fun a b => .ok (decide (a < b))
  | ">" => some fun a b => .ok (decide (b < a))
  | "-eq" => some (numbers fun a b => a == b)
  | "-ne" => some (numbers fun a b => a != b)
  | "-gt" => some (numbers fun a b => a > b)
  | "-ge" => some (numbers fun a b => a ≥ b)
  | "-lt" => some (numbers fun a b => a < b)
  | "-le" => some (numbers fun a b => a ≤ b)
  | _ => none

abbrev Check := StateT (List (List Char)) (Except String)

mutual

/-- Conditions of which one has to hold. -/
def either (s : Setting) : Nat → Check Bool
  | 0 => throw "too many arguments"
  | n + 1 => do
    let a ← both s n
    match ← get with
    | ['-', 'o'] :: rest =>
      set rest
      let b ← either s n
      return a || b
    | _ => return a

/-- Conditions that all have to hold. -/
def both (s : Setting) : Nat → Check Bool
  | 0 => throw "too many arguments"
  | n + 1 => do
    let a ← negated s n
    match ← get with
    | ['-', 'a'] :: rest =>
      set rest
      let b ← both s n
      return a && b
    | _ => return a

/-- A condition, negated or not. -/
def negated (s : Setting) : Nat → Check Bool
  | 0 => throw "too many arguments"
  | n + 1 => do
    match ← get with
    | ['!'] :: rest =>
      if rest = [] then
        set rest
        return true
      set rest
      return !(← negated s n)
    | _ => single s n

/-- A condition by itself. -/
def single (s : Setting) : Nat → Check Bool
  | 0 => throw "too many arguments"
  | n + 1 => do
    match ← get with
    | [] => throw "argument expected"
    | a :: o :: b :: rest =>
      match binary? (String.ofList o) with
      | some f =>
        set rest
        f a b
      | none =>
        match a, unary? s (String.ofList a) with
        | ['('], _ =>
          set (o :: b :: rest)
          closed s n
        | _, some f =>
          set (b :: rest)
          return f o
        | _, none =>
          set (o :: b :: rest)
          return !a.isEmpty
    | [a, b] =>
      match unary? s (String.ofList a) with
      | some f =>
        set ([] : List (List Char))
        return f b
      | none =>
        set [b]
        return !a.isEmpty
    | [a] =>
      set ([] : List (List Char))
      return !a.isEmpty

/-- A condition in brackets, the first of which is passed. -/
def closed (s : Setting) : Nat → Check Bool
  | 0 => throw "too many arguments"
  | n + 1 => do
    let a ← either s n
    match ← get with
    | [')'] :: rest =>
      set rest
      return a
    | _ => throw "closing paren expected"

end

/-- Whether the condition that words spell holds. -/
def evaluate (s : Setting) (words : List (List Char)) : Except String Bool :=
  if words = [] then .ok false
  else
    match (either s (8 * words.length + 16)).run words with
    | .error e => .error e
    | .ok (holds, []) => .ok holds
    | .ok (_, left) =>
      -- the last word that was understood is named
      let last := words[words.length - left.length - 1]?.getD []
      .error s!"{String.ofList last}: unexpected operator"

end TexBuild.Shell.Condition
