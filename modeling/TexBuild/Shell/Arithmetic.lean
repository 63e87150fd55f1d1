import TexBuild.Number.Power
import TexBuild.Text.Digit

namespace TexBuild.Shell.Arithmetic

/-- The work on a sum: what is left of its text, with the variables as far as they
are set in it. -/
abbrev Sum := StateT (List Char × List (List Char × Int)) (Except String)

/-- The text of a variable outside the sum. -/
abbrev Names := List Char → List Char

def isNameStart (c : Char) : Bool :=
  c.isAlpha || c == '_'

/-- A whole number of 64 bits. -/
def word (n : Int) : Int :=
  n.bmod (twoTo 64)

/-- The value of a digit, up to those of base sixteen. -/
def digit (c : Char) : Nat :=
  if c.isDigit then c.toNat - 0x30 else c.toLower.toNat - 0x57

/-- The number that a constant denotes: in base eight after a zero, in base
sixteen after a zero and an x. -/
def constant? (cs : List Char) : Option Int :=
  let value (base : Nat) (ds : List Char) : Option Int :=
    if ds.all fun c => (c.isDigit || ('a' ≤ c.toLower && c.toLower ≤ 'f')) && digit c < base then
      some (ds.foldl (fun n c => base * n + digit c) 0 : Nat)
    else none
  match cs with
  | [] => none
  | '0' :: 'x' :: ds | '0' :: 'X' :: ds => if ds = [] then none else value 16 ds
  | '0' :: ds => value 8 ds
  | ds => value 10 ds

/-- The number that the text of a variable denotes; an empty one denotes zero. -/
def numberOf (cs : List Char) : Except String Int :=
  let blank (c : Char) := c == ' ' || c == '\t' || c == '\n'
  let inner := ((cs.dropWhile blank).reverse.dropWhile blank).reverse
  let (negative, digits) := match inner with
    | '-' :: ds => (true, ds)
    | '+' :: ds => (false, ds)
    | ds => (false, ds)
  if inner = [] then .ok 0
  else
    match constant? digits with
    | some n => .ok (if negative then -n else n)
    | none => .error s!"Illegal number: {String.ofList cs}"

def fail {α : Type} (text : String) : Sum α :=
  throw text

/-- What comes next, blanks passed. -/
def ahead : Sum (List Char) := do
  let (cs, vars) ← get
  let rest := cs.dropWhile fun c => c == ' ' || c == '\t' || c == '\n'
  set (rest, vars)
  return rest

def pass (n : Nat) : Sum Unit :=
  modify fun (cs, vars) => (cs.drop n, vars)

/-- The operators with two operands, the longer spellings first, each with its
rank. -/
def operators : List (String × Nat) :=
  [("||", 1), ("&&", 2), ("==", 6), ("!=", 6), ("<<", 8), (">>", 8), ("<=", 7), (">=", 7),
    ("|", 3), ("^", 4), ("&", 5), ("<", 7), (">", 7), ("+", 9), ("-", 9), ("*", 10), ("/", 10),
    ("%", 10)]

/-- The operator to come that is no assignment. -/
def operator? (cs : List Char) : Option (String × Nat) :=
  match operators.find? fun o => o.1.toList.isPrefixOf cs with
  | some (o, rank) =>
    let assigns := (cs.drop o.length).head? = some '=' ∧ ! ["||", "&&", "==", "!=", "<=", ">="].contains o
    if assigns then none else some (o, rank)
  | none => none

def truth (b : Bool) : Int := if b then 1 else 0

/-- The value of an operation. -/
def apply (o : String) (a b : Int) : Except String Int :=
  match o with
  | "||" => .ok (truth (a != 0 || b != 0))
  | "&&" => .ok (truth (a != 0 && b != 0))
  | "==" => .ok (truth (a == b))
  | "!=" => .ok (truth (a != b))
  | "<=" => .ok (truth (a ≤ b))
  | ">=" => .ok (truth (a ≥ b))
  | "<" => .ok (truth (a < b))
  | ">" => .ok (truth (a > b))
  | "<<" => .ok (word (a * twoTo (b.toNat % 64)))
  | ">>" => .ok (a.fdiv (twoTo (b.toNat % 64)))
  | "|" => .ok (word ((a.emod (twoTo 64)).toNat ||| (b.emod (twoTo 64)).toNat : Nat))
  | "^" => .ok (word ((a.emod (twoTo 64)).toNat ^^^ (b.emod (twoTo 64)).toNat : Nat))
  | "&" => .ok (word ((a.emod (twoTo 64)).toNat &&& (b.emod (twoTo 64)).toNat : Nat))
  | "+" => .ok (word (a + b))
  | "-" => .ok (word (a - b))
  | "*" => .ok (word (a * b))
  | "/" => if b = 0 then .error "division by zero" else .ok (word (a.tdiv b))
  | "%" => if b = 0 then .error "division by zero" else .ok (a.tmod b)
  | _ => .error o

/-- The assignments that join an operation with the setting of a variable. -/
def assignment? (cs : List Char) : Option (Option String × Nat) :=
  match cs with
  | '=' :: '=' :: _ => none
  | '=' :: _ => some (none, 1)
  | _ =>
    match ["<<", ">>", "+", "-", "*", "/", "%", "&", "|", "^"].find? fun o => o.toList.isPrefixOf cs with
    | some o => if (cs.drop o.length).head? = some '=' then some (some o, o.length + 1) else none
    | none => none

def valueOf (names : Names) (name : List Char) : Sum Int := do
  match (← get).2.lookup name with
  | some n => return n
  | none => numberOf (names name)

mutual

/-- A choice between two sums, or a sum alone. -/
def whole (names : Names) : Nat → Sum Int
  | 0 => fail "expecting EOF"
  | n + 1 => do
    let a ← ranked names 1 n
    match ← ahead with
    | '?' :: _ =>
      pass 1
      let b ← whole names n
      match ← ahead with
      | ':' :: _ => pass 1
      | _ => fail "expecting ':'"
      let c ← whole names n
      return if a != 0 then b else c
    | _ => return a

/-- Operations of at least a rank. -/
def ranked (names : Names) (least : Nat) : Nat → Sum Int
  | 0 => fail "expecting primary"
  | n + 1 => do
    let a ← single names n
    more names least a n

/-- The operations after a first operand. -/
def more (names : Names) (least : Nat) (a : Int) : Nat → Sum Int
  | 0 => fail "expecting EOF"
  | n + 1 => do
    match operator? (← ahead) with
    | some (o, rank) =>
      if rank < least then return a
      else do
        pass o.length
        let b ← ranked names (rank + 1) n
        more names least (← apply o a b) n
    | none => return a

/-- An operand. -/
def single (names : Names) : Nat → Sum Int
  | 0 => fail "expecting primary"
  | n + 1 => do
    match ← ahead with
    | '(' :: _ =>
      pass 1
      let a ← whole names n
      match ← ahead with
      | ')' :: _ => pass 1; return a
      | _ => fail "expecting ')'"
    | '-' :: _ => pass 1; return word (-(← single names n))
    | '+' :: _ => pass 1; single names n
    | '!' :: _ => pass 1; return truth ((← single names n) == 0)
    | '~' :: _ => pass 1; return -(← single names n) - 1
    | c :: rest =>
      if c.isDigit then
        let digits := (c :: rest).takeWhile Char.isAlphanum
        match constant? digits with
        | some k => pass digits.length; return word k
        | none => fail "expecting EOF"
      else if isNameStart c then
        let name := (c :: rest).takeWhile fun c => isNameStart c || c.isDigit
        pass name.length
        match assignment? (← ahead) with
        | some (o, size) =>
          pass size
          let b ← whole names n
          let result ← match o with
            | some o => do
              let a ← valueOf names name
              let r ← apply o a b
              pure r
            | none => pure b
          modify fun (cs, vars) => (cs, (name, result) :: vars)
          return result
        | none => valueOf names name
      else fail "expecting primary"
    | [] => fail "expecting primary"

end

/-- The value of a sum and the variables that are set in it, the last one first. -/
def evaluate (names : Names) (cs : List Char) : Except String (Int × List (List Char × Int)) := do
  let work : Sum Int := do
    if (← ahead) = [] then return 0
    let n ← whole names (4 * cs.length + 8)
    match ← ahead with
    | [] => return n
    | _ => fail "expecting EOF"
  let (n, _, vars) ← work.run (cs, [])
  return (n, vars)

end TexBuild.Shell.Arithmetic
