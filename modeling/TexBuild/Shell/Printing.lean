import TexBuild.Number.Power
import TexBuild.Text.Digit

namespace TexBuild.Shell.Printing

def isOctal (c : Char) : Bool :=
  '0' ≤ c && c ≤ '7'

/-- The octet that up to a number of digits in base eight denote, with the rest. -/
def octal (most : Nat) (cs : List Char) : Char × List Char :=
  let digits := (cs.take most).takeWhile isOctal
  (Char.ofNat ((digits.foldl (fun n c => 8 * n + (c.toNat - 0x30)) 0) % 256), cs.drop digits.length)

/-- The character that a letter stands for after a backslash. -/
def letter? (c : Char) : Option Char :=
  match c with
  | '\\' => some '\\'
  | 'a' => some (Char.ofNat 7)
  | 'b' => some (Char.ofNat 8)
  | 'f' => some (Char.ofNat 12)
  | 'n' => some '\n'
  | 'r' => some '\r'
  | 't' => some '\t'
  | 'v' => some (Char.ofNat 11)
  | _ => none

/-- The characters that follow a backslash in a format, read as one character. -/
def escaped (cs : List Char) : Char × List Char :=
  match cs with
  | [] => ('\\', [])
  | c :: rest =>
    if isOctal c then octal 3 cs
    else
      match letter? c with
      | some d => (d, rest)
      | none => ('\\', cs)

/-- A text with its escapes read, and whether it says that nothing follows. A zero
opens up to three more digits. -/
def unescape : Nat → List Char → List Char → List Char × Bool
  | 0, _, done => (done.reverse, false)
  | _ + 1, [], done => (done.reverse, false)
  | _ + 1, '\\' :: 'c' :: _, done => (done.reverse, true)
  | n + 1, '\\' :: '0' :: rest, done =>
    let (c, rest) := octal 3 rest
    unescape n rest (c :: done)
  | n + 1, '\\' :: rest, done =>
    let (c, rest) := escaped rest
    unescape n rest (c :: done)
  | n + 1, c :: rest, done => unescape n rest (c :: done)

/-- What the words of an echo print. -/
def echo (args : List (List Char)) : List Char :=
  let (words, ends) := match args with
    | ['-', 'n'] :: rest => (rest, false)
    | words => (words, true)
  let line := List.intercalate [' '] words
  let (cs, stopped) := unescape (line.length + 1) line []
  if stopped || !ends then cs else cs ++ ['\n']

/-- How a conversion lays out its text. -/
structure Layout where
  left : Bool
  zero : Bool
  plus : Bool
  space : Bool
  alternate : Bool
  width : Nat
  precision : Option Nat

/-- A text at the width of its layout. -/
def Layout.pad (l : Layout) (cs : List Char) : List Char :=
  let gap := List.replicate (l.width - cs.length) ' '
  if l.left then cs ++ gap else gap ++ cs

/-- A number at the width of its layout. -/
def Layout.padNumber (l : Layout) (sign digits : List Char) : List Char :=
  let digits := match l.precision with
    | some p => List.replicate (p - digits.length) '0' ++ digits
    | none => digits
  if l.zero && !l.left && l.precision.isNone then
    sign ++ List.replicate (l.width - (sign.length + digits.length)) '0' ++ digits
  else l.pad (sign ++ digits)

/-- The number that an argument denotes, and a complaint if it is none. -/
def numberOf (cs : List Char) : Int × Option String :=
  match cs with
  | '\'' :: c :: _ | '"' :: c :: _ => (c.toNat, none)
  | _ =>
    let (negative, rest) := match cs with
      | '-' :: rest => (true, rest)
      | '+' :: rest => (false, rest)
      | rest => (false, rest)
    let digit (c : Char) : Nat := if c.isDigit then c.toNat - 0x30 else c.toLower.toNat - 0x57
    let isHex (c : Char) : Bool := c.isDigit || ('a' ≤ c.toLower && c.toLower ≤ 'f')
    let (base, skipped) := match rest with
      | '0' :: 'x' :: _ | '0' :: 'X' :: _ => (16, 2)
      | '0' :: _ => (8, 0)
      | _ => (10, 0)
    let digits := (rest.drop skipped).takeWhile fun c => isHex c && digit c < base
    let n : Int := (digits.foldl (fun k c => base * k + digit c) 0 : Nat)
    let after := rest.drop (skipped + digits.length)
    let value := if negative then -n else n
    if cs = [] then (0, none)
    else if digits = [] then (0, some s!"{String.ofList cs}: expected numeric value")
    else if after ≠ [] then (value, some s!"{String.ofList cs}: not completely converted")
    else (value, none)

/-- The digits of a number in a base, in small letters. -/
def digits (base n : Nat) : List Char :=
  Nat.toDigits base n

/-- What one conversion prints. -/
def convert (l : Layout) (kind : Char) (arg : List Char) : List Char × Option String × Bool :=
  match kind with
  | 's' => (l.pad (match l.precision with
    | some p => arg.take p
    | none => arg), none, false)
  | 'b' =>
    let (cs, stopped) := unescape (arg.length + 1) arg []
    (l.pad cs, none, stopped)
  | 'c' => (l.pad (arg.take 1), none, false)
  | _ =>
    let (n, complaint) := numberOf arg
    let unsigned := (n.emod (twoTo 64)).toNat
    let text := match kind with
      | 'd' | 'i' =>
        let sign := if n < 0 then ['-'] else if l.plus then ['+'] else if l.space then [' '] else []
        l.padNumber sign (digits 10 n.natAbs)
      | 'u' => l.padNumber [] (digits 10 unsigned)
      | 'o' => l.padNumber (if l.alternate then ['0'] else []) (digits 8 unsigned)
      | 'x' => l.padNumber (if l.alternate then ['0', 'x'] else []) (digits 16 unsigned)
      | _ => l.padNumber (if l.alternate then ['0', 'X'] else []) ((digits 16 unsigned).map Char.toUpper)
    (text, complaint, false)

/-- What a format prints for as many arguments as it takes: the text, the
arguments that are left, the complaints, and whether all ends here. -/
structure Printed where
  text : List Char
  args : List (List Char)
  complaints : List String
  stopped : Bool

/-- The layout at the beginning of a conversion, with the rest and the arguments
that it does not take. -/
def layout (cs : List Char) (args : List (List Char)) : Layout × List Char × List (List Char) :=
  let flags := cs.takeWhile fun c => "-+ #0".toList.contains c
  let rest := cs.drop flags.length
  let count (cs : List Char) (args : List (List Char)) : Nat × List Char × List (List Char) :=
    match cs with
    | '*' :: rest => ((numberOf (args.headD [])).1.toNat, rest, args.drop 1)
    | _ =>
      let ds := cs.takeWhile Char.isDigit
      (valueOfDigits ds, cs.drop ds.length, args)
  let (width, rest, args) := count rest args
  let (precision, rest, args) := match rest with
    | '.' :: more =>
      let (p, more, args) := count more args
      (some p, more, args)
    | _ => (none, rest, args)
  (⟨flags.contains '-', flags.contains '0', flags.contains '+', flags.contains ' ',
    flags.contains '#', width, precision⟩, rest, args)

/-- One pass through a format. -/
def formatOnce : Nat → List Char → Printed → Printed
  | 0, _, p => p
  | _ + 1, [], p => p
  | n + 1, '\\' :: rest, p =>
    match rest with
    | 'c' :: _ => { p with stopped := true }
    | _ =>
      let (c, rest) := escaped rest
      formatOnce n rest { p with text := p.text ++ [c] }
  | n + 1, '%' :: '%' :: rest, p => formatOnce n rest { p with text := p.text ++ ['%'] }
  | n + 1, '%' :: rest, p =>
    let (l, rest, args) := layout rest p.args
    match rest with
    | [] => { p with complaints := p.complaints ++ ["%: missing format character"], stopped := true }
    | kind :: rest =>
      if "sbcdiuoxX".toList.contains kind then
        let (text, complaint, stopped) := convert l kind (args.headD [])
        let p := ⟨p.text ++ text, args.drop 1, p.complaints ++ complaint.toList, stopped⟩
        if stopped then p else formatOnce n rest p
      else
        { p with complaints := p.complaints ++ [s!"%{kind}: invalid directive"], stopped := true }
  | n + 1, c :: rest, p => formatOnce n rest { p with text := p.text ++ [c] }

/-- What a format prints: it is gone through again while arguments are left. -/
def formatAll (format : List Char) : Nat → Printed → Printed
  | 0, p => p
  | n + 1, p =>
    let q := formatOnce (format.length + 1) format p
    if q.stopped || q.args.isEmpty || q.args.length = p.args.length then q else formatAll format n q

/-- What a format prints for arguments. -/
def format (format : List Char) (args : List (List Char)) : Printed :=
  formatAll format (args.length + 1) ⟨[], args, [], false⟩

end TexBuild.Shell.Printing
