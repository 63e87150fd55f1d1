import TexBuild.Shell.Script
import TexBuild.Text.Digit

namespace TexBuild.Shell

/-- What is left of a script, and the line it begins in. -/
structure Input where
  rest : List Char
  line : Nat

/-- The reading of a script, which can stop at a line with a complaint. -/
abbrev Reading := StateT Input (Except (Nat × String))

namespace Reading

/-- Stops with a complaint. -/
def refuse {α : Type} (text : String) : Reading α :=
  fun i => .error (i.line, "Syntax error: " ++ text)

/-- The characters to come. -/
def ahead : Reading (List Char) :=
  return (← get).rest

/-- Passes a number of characters. -/
def pass (n : Nat) : Reading Unit :=
  modify fun i => ⟨i.rest.drop n, i.line + (i.rest.take n).count '\n'⟩

/-- A character that ends a word. -/
def isBreak (c : Char) : Bool :=
  c == ' ' || c == '\t' || c == '\n' || c == ';' || c == '&' || c == '|' || c == '<' ||
    c == '>' || c == '(' || c == ')'

def isNameStart (c : Char) : Bool :=
  c.isAlpha || c == '_'

def isNameChar (c : Char) : Bool :=
  isNameStart c || c.isDigit

/-- Passes blanks, joined lines and a comment. -/
def skipBlanks : Nat → Reading Unit
  | 0 => return
  | n + 1 => do
    match ← ahead with
    | ' ' :: _ | '\t' :: _ => pass 1; skipBlanks n
    | '\\' :: '\n' :: _ => pass 2; skipBlanks n
    | '#' :: rest => pass (1 + (rest.takeWhile (· != '\n')).length)
    | _ => return

/-- Passes blanks, comments and line ends. -/
def skipLines : Nat → Reading Unit
  | 0 => return
  | n + 1 => do
    skipBlanks n
    match ← ahead with
    | '\n' :: _ => pass 1; skipLines n
    | _ => return

/-- Where a word is read: on its own, between double quotes, inside the braces of
a parameter, in a sum, or as text of the script. -/
inductive Mode where
  | bare
  | double
  | braces (quoted : Bool)
  | sum (depth : Nat)
  | here
deriving DecidableEq

/-- The mode takes single quotes for themselves. -/
def Mode.isQuoting : Mode → Bool
  | .bare | .braces false => false
  | _ => true

/-- One more character at the end of the pieces, which are held newest first. -/
def pushChar (c : Char) : List Piece → List Piece
  | .literal cs :: done => .literal (cs ++ [c]) :: done
  | done => .literal [c] :: done

/-- The reserved words. -/
def reserved : List String :=
  ["if", "then", "elif", "else", "fi", "while", "until", "for", "do", "done", "case", "esac",
    "\x7b", "\x7d", "!"]

/-- The reserved words that end a list of commands. -/
def closing : List String :=
  ["then", "elif", "else", "fi", "do", "done", "esac", "\x7d"]

/-- The reserved word to come, if one comes. -/
def reserved? : Reading (Option String) := do
  let cs := (← ahead).takeWhile fun c => !isBreak c
  return reserved.find? fun w => w.toList == cs

/-- Passes a reserved word that has to come. -/
def expect (word : String) : Reading Unit := do
  if (← reserved?) = some word then pass word.length
  else
    match ← ahead with
    | [] => refuse s!"end of file unexpected (expecting \"{word}\")"
    | '\n' :: _ => refuse s!"newline unexpected (expecting \"{word}\")"
    | c :: rest =>
      let seen := if isBreak c then [c] else (c :: rest).takeWhile fun c => !isBreak c
      refuse s!"\"{String.ofList seen}\" unexpected (expecting \"{word}\")"

/-- A complaint about what comes. -/
def unexpected {α : Type} : Reading α := do
  match ← ahead with
  | [] => refuse "end of file unexpected"
  | '\n' :: _ => refuse "newline unexpected"
  | ';' :: ';' :: _ => refuse "\";;\" unexpected"
  | c :: rest =>
    let seen := if isBreak c then [c] else (c :: rest).takeWhile fun c => !isBreak c
    refuse s!"\"{String.ofList seen}\" unexpected"

/-- The name of a parameter inside braces. -/
def parameterName (cs : List Char) : List Char :=
  match cs with
  | c :: _ =>
    if isNameStart c then cs.takeWhile isNameChar
    else if c.isDigit then cs.takeWhile Char.isDigit
    else if "@*#?-$!".toList.contains c then [c]
    else []
  | [] => []

/-- The text of the script after the line at hand, up to the line that closes it,
with the two parts of the script around it. -/
def hereText (tabs : Bool) (close : List Char) : Nat → List Char → List Char →
    List Char × List Char
  | 0, rest, done => (done, rest)
  | n + 1, rest, done =>
    let strip (l : List Char) := if tabs then l.dropWhile (· == '\t') else l
    let line := rest.takeWhile (· != '\n')
    let after := (rest.dropWhile (· != '\n')).drop 1
    if rest = [] ∨ strip line = close then (done, after)
    else hereText tabs close n after (done ++ strip line ++ ['\n'])

/-- The characters of a word of literal pieces. -/
def plainText (pieces : List Piece) : List Char :=
  pieces.flatMap fun
    | .literal cs => cs
    | .quoted inner => inner.flatMap fun
      | .literal cs => cs
      | _ => []
    | _ => []

/-- Whether a word has quotes in it. -/
def hasQuotes (pieces : List Piece) : Bool :=
  pieces.any fun
    | .quoted _ => true
    | _ => false

/-- The number of a descriptor and the rest, when a redirection comes. -/
def redirectAhead? (cs : List Char) : Option (Option Nat × List Char) :=
  let digits := cs.takeWhile Char.isDigit
  match cs.drop digits.length with
  | '<' :: rest => some (if digits = [] then none else some (valueOfDigits digits), '<' :: rest)
  | '>' :: rest => some (if digits = [] then none else some (valueOfDigits digits), '>' :: rest)
  | _ => none

mutual

/-- The pieces up to the end that the mode asks for. -/
def pieces (mode : Mode) : Nat → List Piece → Reading (List Piece)
  | 0, _ => refuse "word too long"
  | n + 1, done => do
    match ← ahead with
    | [] =>
      match mode with
      | .bare | .here => return done.reverse
      | .braces _ => refuse "Missing '\x7d'"
      | _ => refuse "Unterminated quoted string"
    | c :: rest =>
      if mode = .bare ∧ isBreak c then return done.reverse
      else if mode = .double ∧ c = '"' then pass 1; return done.reverse
      else if (mode = .braces true ∨ mode = .braces false) ∧ c = '\x7d' then
        pass 1; return done.reverse
      else if c = '\\' then
        match rest with
        | '\n' :: _ => pass 2; pieces mode n done
        | d :: _ =>
          if !mode.isQuoting || d == '$' || d == '\x60' || d == '\\' || (d == '"' && mode != .here) then
            pass 2; pieces mode n (.quoted [.literal [d]] :: done)
          else pass 1; pieces mode n (pushChar c done)
        | [] => pass 1; pieces mode n (pushChar c done)
      else if c = '\'' ∧ !mode.isQuoting then
        let inner := rest.takeWhile (· != '\'')
        if inner.length = rest.length then refuse "Unterminated quoted string"
        pass (inner.length + 2)
        pieces mode n (.quoted [.literal inner] :: done)
      else if c = '"' ∧ mode ≠ .here then
        pass 1
        let inner ← pieces .double n []
        pieces mode n (.quoted inner :: done)
      else if c = '$' then
        pass 1
        let piece ← dollar mode n
        pieces mode n (piece :: done)
      else if c = '\x60' then
        pass 1
        let piece ← backquoted n []
        pieces mode n (piece :: done)
      else
        match mode, c with
        | .sum depth, '(' => pass 1; pieces (.sum (depth + 1)) n (pushChar c done)
        | .sum (depth + 1), ')' => pass 1; pieces (.sum depth) n (pushChar c done)
        | .sum 0, ')' =>
          if rest.head? = some ')' then pass 2; return done.reverse
          else refuse "Missing '))'"
        | _, _ => pass 1; pieces mode n (pushChar c done)
termination_by n => (n, 0)

/-- The piece after a dollar sign. -/
def dollar (mode : Mode) : Nat → Reading Piece
  | 0 => refuse "word too long"
  | n + 1 => do
    match ← ahead with
    | '\x7b' :: _ => pass 1; parameter mode n
    | '(' :: '(' :: _ => pass 2; return .sum (← pieces (.sum 0) n [])
    | '(' :: _ => do
      pass 1
      let body ← commands n
      match ← ahead with
      | ')' :: _ => pass 1; return .output body
      | _ => unexpected
    | c :: rest =>
      if isNameStart c then
        let name := (c :: rest).takeWhile isNameChar
        pass name.length
        return .parameter name .keep
      else if c.isDigit || "@*#?-$!".toList.contains c then
        pass 1
        return .parameter [c] .keep
      else return .literal ['$']
    | [] => return .literal ['$']
termination_by n => (n, 0)

/-- The parameter inside braces. -/
def parameter (mode : Mode) : Nat → Reading Piece
  | 0 => refuse "word too long"
  | n + 1 => do
    let cs ← ahead
    match cs with
    | '#' :: rest =>
      let name := parameterName rest
      if name ≠ [] ∧ (rest.drop name.length).head? = some '\x7d' then
        pass (name.length + 2)
        return .parameter name .size
    | _ => pure ()
    let name := parameterName cs
    if name = [] then refuse "Bad substitution"
    pass name.length
    let inner : Mode := .braces mode.isQuoting
    match ← ahead with
    | '\x7d' :: _ => pass 1; return .parameter name .keep
    | '#' :: '#' :: _ => pass 2; return .parameter name (.cutStart true (← pieces (.braces false) n []))
    | '#' :: _ => pass 1; return .parameter name (.cutStart false (← pieces (.braces false) n []))
    | '%' :: '%' :: _ => pass 2; return .parameter name (.cutEnd true (← pieces (.braces false) n []))
    | '%' :: _ => pass 1; return .parameter name (.cutEnd false (← pieces (.braces false) n []))
    | ':' :: '-' :: _ => pass 2; return .parameter name (.fallback .use true (← pieces inner n []))
    | ':' :: '=' :: _ => pass 2; return .parameter name (.fallback .assign true (← pieces inner n []))
    | ':' :: '?' :: _ => pass 2; return .parameter name (.fallback .complain true (← pieces inner n []))
    | ':' :: '+' :: _ => pass 2; return .parameter name (.fallback .replace true (← pieces inner n []))
    | '-' :: _ => pass 1; return .parameter name (.fallback .use false (← pieces inner n []))
    | '=' :: _ => pass 1; return .parameter name (.fallback .assign false (← pieces inner n []))
    | '?' :: _ => pass 1; return .parameter name (.fallback .complain false (← pieces inner n []))
    | '+' :: _ => pass 1; return .parameter name (.fallback .replace false (← pieces inner n []))
    | _ => refuse "Bad substitution"
termination_by n => (n, 0)

/-- The commands between backquotes; a backslash before a backquote, a dollar sign
or a backslash falls away. -/
def backquoted : Nat → List Char → Reading Piece
  | 0, _ => refuse "word too long"
  | n + 1, done => do
    match ← ahead with
    | [] => refuse "EOF in backquote substitution"
    | '\x60' :: _ =>
      pass 1
      let line := (← get).line
      match (commands n).run ⟨done.reverse, line⟩ with
      | .ok (body, _) => return .output body
      | .error e => throw e
    | '\\' :: c :: _ =>
      pass 2
      if c == '\x60' || c == '$' || c == '\\' then backquoted n (c :: done)
      else backquoted n (c :: '\\' :: done)
    | c :: _ => pass 1; backquoted n (c :: done)
termination_by n _ => (n, 0)

/-- A word, which has to come. -/
def word : Nat → Reading (List Piece)
  | 0 => refuse "word too long"
  | n + 1 => do
    match ← ahead with
    | [] => unexpected
    | c :: _ => if isBreak c then unexpected else pieces .bare n []
termination_by n => (n, 0)

/-- A redirection that comes without its number. -/
def redirect (number : Option Nat) : Nat → Reading Redirect
  | 0 => refuse "too long"
  | n + 1 => do
    let out := number.getD 1
    let take (size fd : Nat) (opening : Opening) : Reading Redirect := do
      pass size
      skipBlanks n
      return .file fd opening (← word n)
    match ← ahead with
    | '>' :: '>' :: _ => take 2 out .append
    | '>' :: '|' :: _ => take 2 out .write
    | '>' :: '&' :: _ => take 2 out .duplicate
    | '>' :: _ => take 1 out .write
    | '<' :: '&' :: _ => take 2 (number.getD 0) .duplicate
    | '<' :: '>' :: _ => take 2 (number.getD 0) .read
    | '<' :: '<' :: rest =>
      let tabs := rest.head? = some '-'
      pass (if tabs then 3 else 2)
      skipBlanks n
      let close ← word n
      let cs ← ahead
      let before := cs.takeWhile (· != '\n')
      let (text, after) := hereText tabs (plainText close) n ((cs.dropWhile (· != '\n')).drop 1) []
      modify fun i => ⟨before ++ '\n' :: after, i.line⟩
      if hasQuotes close then return .here (number.getD 0) [.quoted [.literal text]]
      else
        let line := (← get).line
        match (pieces .here n []).run ⟨text, line⟩ with
        | .ok (inner, _) => return .here (number.getD 0) [.quoted inner]
        | .error e => throw e
    | _ => take 1 (number.getD 0) .read
termination_by n => (n, 0)

/-- The redirections to come. -/
def redirects : Nat → Reading (List Redirect)
  | 0 => return []
  | n + 1 => do
    skipBlanks n
    match redirectAhead? (← ahead) with
    | some (number, rest) =>
      pass ((← ahead).length - rest.length)
      let r ← redirect number n
      return r :: (← redirects n)
    | none => return []
termination_by n => (n, 0)

/-- The assignments, words and redirections of a simple command. -/
def simple (line : Nat) : Nat → List (List Char × List Piece) → List (List Piece) →
    List Redirect → Reading Command
  | 0, _, _, _ => refuse "too long"
  | n + 1, assignments, words, outlets => do
    skipBlanks n
    let cs ← ahead
    match redirectAhead? cs with
    | some (number, rest) =>
      pass (cs.length - rest.length)
      let r ← redirect number n
      simple line n assignments words (r :: outlets)
    | none =>
      match cs with
      | [] => return .simple line assignments.reverse words.reverse outlets.reverse
      | '(' :: _ =>
        match assignments, words, outlets with
        | [], [w], [] =>
          pass 1
          skipBlanks n
          match ← ahead with
          | ')' :: _ =>
            pass 1
            skipLines n
            return .define (plainText w) (← command n)
          | _ => unexpected
        | _, _, _ => unexpected
      | c :: rest =>
        if isBreak c then
          return .simple line assignments.reverse words.reverse outlets.reverse
        let name := (c :: rest).takeWhile isNameChar
        if words = [] ∧ isNameStart c ∧ ((c :: rest).drop name.length).head? = some '=' then
          pass (name.length + 1)
          let v ← pieces .bare n []
          simple line n ((name, v) :: assignments) words outlets
        else
          let w ← pieces .bare n []
          simple line n assignments (w :: words) outlets
termination_by n => (n, 0)

/-- The branches of a choice after its first word, to its end. -/
def branches : Nat → List (List Command × List Command) → Reading Command
  | 0, _ => refuse "too long"
  | n + 1, done => do
    let condition ← commands n
    expect "then"
    let body ← commands n
    let done := (condition, body) :: done
    match ← reserved? with
    | some "elif" => pass 4; branches n done
    | some "else" =>
      pass 4
      let otherwise ← commands n
      expect "fi"
      return .choice done.reverse otherwise
    | _ =>
      expect "fi"
      return .choice done.reverse []
termination_by n _ => (n, 0)

/-- The patterns of one arm of a selection, to the bracket that ends them. -/
def patterns : Nat → Reading (List (List Piece))
  | 0 => refuse "too long"
  | n + 1 => do
    skipBlanks n
    let w ← word n
    skipBlanks n
    match ← ahead with
    | '|' :: _ => pass 1; return w :: (← patterns n)
    | ')' :: _ => pass 1; return [w]
    | _ => unexpected
termination_by n => (n, 0)

/-- The arms of a selection, to its end. -/
def arms : Nat → List (List (List Piece) × List Command) → Reading (List (List (List Piece) × List Command))
  | 0, _ => refuse "too long"
  | n + 1, done => do
    skipLines n
    if (← reserved?) = some "esac" then
      pass 4
      return done.reverse
    match ← ahead with
    | '(' :: _ => pass 1
    | _ => pure ()
    let ps ← patterns n
    let body ← commands n
    match ← ahead with
    | ';' :: ';' :: _ => pass 2; arms n ((ps, body) :: done)
    | _ =>
      expect "esac"
      return ((ps, body) :: done).reverse
termination_by n _ => (n, 0)

/-- The words of an iteration, to the end of its line. -/
def words : Nat → Reading (List (List Piece))
  | 0 => refuse "too long"
  | n + 1 => do
    skipBlanks n
    match ← ahead with
    | ';' :: _ | '\n' :: _ => pass 1; return []
    | _ =>
      let w ← word n
      return w :: (← words n)
termination_by n => (n, 0)

/-- The compound command that a reserved word opens. -/
def compound (opener : String) : Nat → Reading Command
  | 0 => refuse "too long"
  | n + 1 => do
    match opener with
    | "if" => pass 2; branches n []
    | "while" | "until" =>
      pass 5
      let condition ← commands n
      expect "do"
      let body ← commands n
      expect "done"
      return .loop (opener == "until") condition body
    | "for" =>
      pass 3
      skipBlanks n
      let name := (← ahead).takeWhile isNameChar
      if name = [] then refuse "Bad for loop variable"
      pass name.length
      skipLines n
      let items ← match ← ahead with
        | 'i' :: 'n' :: rest =>
          if (rest.head?.map isBreak).getD true then do
            pass 2
            let ws ← words n
            pure (some ws)
          else unexpected
        | ';' :: _ => do
          pass 1
          pure none
        | _ => pure none
      skipLines n
      expect "do"
      let body ← commands n
      expect "done"
      return .each name items body
    | "case" =>
      pass 4
      skipBlanks n
      let subject ← word n
      skipLines n
      match ← ahead with
      | 'i' :: 'n' :: _ => pass 2
      | _ => unexpected
      return .select subject (← arms n [])
    | "\x7b" =>
      pass 1
      let body ← commands n
      expect "\x7d"
      return .group body
    | _ => unexpected
termination_by n => (n, 0)

/-- A command. -/
def command : Nat → Reading Command
  | 0 => refuse "too long"
  | n + 1 => do
    skipBlanks n
    let line := (← get).line
    let body? ← match ← ahead with
      | '(' :: _ => do
        pass 1
        let body ← commands n
        match ← ahead with
        | ')' :: _ => do
          pass 1
          pure (some (.subshell body))
        | _ => unexpected
      | [] => unexpected
      | c :: _ => do
        if isBreak c ∧ c ≠ '<' ∧ c ≠ '>' then unexpected
        match ← reserved? with
        | some opener => do
          let body ← compound opener n
          pure (some body)
        | none => pure none
    match body? with
    | none => simple line n [] [] []
    | some body => do
      let outlets ← redirects n
      return if outlets.isEmpty then body else .redirected line body outlets
termination_by n => (n, 0)

/-- Commands joined by pipes, negated or not. -/
def chain : Nat → Reading Command
  | 0 => refuse "too long"
  | n + 1 => do
    skipBlanks n
    if (← reserved?) = some "!" then
      pass 1
      return .negated (← chain n)
    let first ← command n
    skipBlanks n
    match ← ahead with
    | '|' :: '|' :: _ => return first
    | '|' :: _ =>
      pass 1
      skipLines n
      return .chain first (← chain n)
    | _ => return first
termination_by n => (n, 0)

/-- What follows a command on which it depends, joined to it. -/
def joined (first : Command) : Nat → Reading Command
  | 0 => refuse "too long"
  | n + 1 => do
    skipBlanks n
    match ← ahead with
    | '&' :: '&' :: _ =>
      pass 2
      skipLines n
      let second ← chain n
      joined (.both first second) n
    | '|' :: '|' :: _ =>
      pass 2
      skipLines n
      let second ← chain n
      joined (.either first second) n
    | _ => return first
termination_by n => (n, 0)

/-- The commands up to something that ends a list. -/
def commands : Nat → Reading (List Command)
  | 0 => refuse "too long"
  | n + 1 => do
    skipLines n
    match ← ahead with
    | [] | ')' :: _ | ';' :: ';' :: _ => return []
    | _ =>
      match ← reserved? with
      | some w => if closing.contains w then return [] else item n
      | none => item n
termination_by n => (n, 0)

/-- One command with what ends it, and those after it. -/
def item : Nat → Reading (List Command)
  | 0 => refuse "too long"
  | n + 1 => do
    let first ← chain n
    let c ← joined first n
    skipBlanks n
    match ← ahead with
    | ';' :: ';' :: _ => return [c]
    | '&' :: _ => pass 1; return .background c :: (← commands n)
    | ';' :: _ | '\n' :: _ => pass 1; return c :: (← commands n)
    | [] | ')' :: _ => return [c]
    | _ => unexpected
termination_by n => (n, 0)

end

/-- The commands of a script. Those of one line count only when the whole line
can be read. -/
def script : Nat → Input → List Command → List Command → Script
  | 0, _, _, done => ⟨done.reverse, none⟩
  | n + 1, i, line, done =>
    -- what was read, and whether its line goes on
    let one : Reading (Option (Command × Bool)) := do
      skipLines (i.rest.length + 1)
      match ← ahead with
      | [] => return none
      | _ => do
        let fuel := 4 * i.rest.length + 64
        let first ← chain fuel
        let c ← joined first fuel
        skipBlanks fuel
        let (c, size) ← match ← ahead with
          | ';' :: ';' :: _ => unexpected
          | '&' :: _ => pure (.background c, 1)
          | ';' :: _ => pure (c, 1)
          | '\n' :: _ | [] => pure (c, 0)
          | _ => unexpected
        pass size
        skipBlanks fuel
        match ← ahead with
        | '\n' :: _ | [] => return some (c, false)
        | _ => return some (c, true)
    match one.run i with
    | .ok (none, _) => ⟨(line ++ done).reverse, none⟩
    | .ok (some (c, true), i') => script n i' (c :: line) done
    | .ok (some (c, false), i') => script n i' [] (c :: line ++ done)
    | .error e => ⟨done.reverse, some e⟩

end Reading

/-- The script that characters spell. -/
def Script.ofChars (cs : List Char) : Script :=
  Reading.script (cs.length + 1) ⟨cs, 1⟩ [] []

end TexBuild.Shell
