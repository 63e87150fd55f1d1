namespace TexBuild.Shell

/-- One element of a pattern: any text, any one character, one character of a
set given by ranges or outside it, or a certain character. -/
inductive Matcher where
  | anyText
  | anyOne
  | oneOf (outside : Bool) (ranges : List (Char × Char))
  | exactly (c : Char)
deriving DecidableEq, Repr

namespace Matcher

/-- The character fits an element that stands for one character. -/
def accepts (c : Char) : Matcher → Bool
  | .anyText => false
  | .anyOne => true
  | .oneOf outside ranges =>
    ranges.any (fun r => r.1.toNat ≤ c.toNat && c.toNat ≤ r.2.toNat) != outside
  | .exactly d => c == d

/-- The whole text fits the pattern. -/
def fits : List Matcher → List Char → Bool
  | [], cs => cs.isEmpty
  | .anyText :: ms, [] => fits ms []
  | .anyText :: ms, c :: cs => fits ms (c :: cs) || fits (.anyText :: ms) cs
  | m :: ms, c :: cs => m.accepts c && fits ms cs
  | _ :: _, [] => false
termination_by ms cs => (ms.length, cs.length)

end Matcher

/-- A character of a pattern; one that was quoted stands for itself. -/
structure PatternChar where
  char : Char
  quoted : Bool
deriving DecidableEq

/-- The ranges of a bracket expression up to its closing bracket, with what
follows it. A bracket at the beginning is a member. -/
def bracket? : Nat → List PatternChar → List (Char × Char) →
    Option (List (Char × Char) × List PatternChar)
  | 0, _, _ => none
  | _ + 1, [], _ => none
  | fuel + 1, c :: rest, done =>
    if c.char == ']' && !c.quoted && !done.isEmpty then some (done, rest)
    else
      match rest with
      | dash :: last :: more =>
        if dash.char == '-' && !dash.quoted && (last.char != ']' || last.quoted) then
          bracket? fuel more ((c.char, last.char) :: done)
        else bracket? fuel rest ((c.char, c.char) :: done)
      | _ => bracket? fuel rest ((c.char, c.char) :: done)

/-- The pattern that characters spell. -/
def matchers : Nat → List PatternChar → List Matcher
  | 0, _ => []
  | _ + 1, [] => []
  | fuel + 1, c :: rest =>
    if c.quoted then .exactly c.char :: matchers fuel rest
    else if c.char = '*' then .anyText :: matchers fuel rest
    else if c.char = '?' then .anyOne :: matchers fuel rest
    else if c.char = '[' then
      let (outside, inner) := match rest with
        | d :: more => if d.char == '!' && !d.quoted then (true, more) else (false, rest)
        | [] => (false, rest)
      match bracket? (inner.length + 1) inner [] with
      | some (ranges, after) => .oneOf outside ranges :: matchers fuel after
      | none => .exactly '[' :: matchers fuel rest
    else .exactly c.char :: matchers fuel rest

/-- The pattern that characters spell. -/
def pattern (cs : List PatternChar) : List Matcher :=
  matchers (cs.length + 1) cs

/-- The text without the shortest or the longest beginning that fits. -/
def cutStart (ms : List Matcher) (longest : Bool) (cs : List Char) : List Char :=
  let sizes := List.range (cs.length + 1)
  match (if longest then sizes.reverse else sizes).find? fun n => Matcher.fits ms (cs.take n) with
  | some n => cs.drop n
  | none => cs

/-- The text without the shortest or the longest end that fits. -/
def cutEnd (ms : List Matcher) (longest : Bool) (cs : List Char) : List Char :=
  let sizes := List.range (cs.length + 1)
  match (if longest then sizes else sizes.reverse).find? fun n => Matcher.fits ms (cs.drop n) with
  | some n => cs.take n
  | none => cs

end TexBuild.Shell
