import TexBuild.Text.Digit

namespace TexBuild

/-- Why a template has no text: braces that form no field, fields that name no value, or
values that have no such part or form. -/
inductive TemplateError where
  | loneOpening
  | loneClosing
  | unclosed
  | openingInName
  | noConversion
  | noColon
  | unclosedForm
  | positional
  | longIndex
  | emptyPart
  | unclosedIndex
  | unknownName (name : String)
  | noAttribute (kind name : String)
  | noItems (kind : String)
  | unknownConversion (c : Char)
  | tooDeep
  | longFraction
deriving DecidableEq

namespace TemplateError

/-- A character that is no conversion: itself if it can be seen in ASCII, or else its
number. -/
def shown (c : Char) : String :=
  if 0x20 < c.toNat ∧ c.toNat < 0x7F then c.toString
  else "\\x" ++ String.ofList (Nat.toDigits 16 c.toNat)

/-- What is wrong in words. -/
def message : TemplateError → String
  | loneOpening => "Single '\x7b' encountered in format string"
  | loneClosing => "Single '\x7d' encountered in format string"
  | unclosed => "expected '\x7d' before end of string"
  | openingInName => "unexpected '\x7b' in field name"
  | noConversion => "end of string while looking for conversion specifier"
  | noColon => "expected ':' after conversion specifier"
  | unclosedForm => "unmatched '\x7b' in format spec"
  | positional => "Format string contains positional fields"
  | longIndex => "Too many decimal digits in format string"
  | emptyPart => "Empty attribute in format string"
  | unclosedIndex => "Missing ']' in format string"
  | unknownName name => name
  | noAttribute kind name => s!"'{kind}' object has no attribute '{name}'"
  | noItems kind => s!"'{kind}' object is not subscriptable"
  | unknownConversion c => s!"Unknown conversion specifier {shown c}"
  | tooDeep => "Max string recursion exceeded"
  | longFraction =>
    "Invalid time format: the provided format string contains more than six successive 'S' characters. This may be due to an attempt to use nanosecond precision, which is not supported."

end TemplateError

namespace Template

/-- A part of a template: text as it stands, or a field with the characters of its name,
a conversion and the form in which its value is wanted. -/
inductive Part where
  | text (cs : List Char)
  | field (name : List Char) (conversion : Option Char) (form : List Char)
deriving DecidableEq

/-- The name of a field and what follows it, from the character on that ends it. What
stands in brackets does not end it. -/
def splitName : Bool → List Char → List Char × List Char
  | _, [] => ([], [])
  | inBrackets, c :: rest =>
    let ends : Bool := !inBrackets && (c == '\x7b' || c == '\x7d' || c == ':' || c == '!')
    if ends then ([], c :: rest)
    else
      let (name, more) := splitName (if inBrackets then c != ']' else c == '[') rest
      (c :: name, more)

/-- A form up to the brace that closes its field, and what follows. Braces inside it come
in pairs. -/
def splitForm? : Nat → List Char → Option (List Char × List Char)
  | _, [] => none
  | depth, c :: rest =>
    if c = '\x7d' then
      match depth with
      | 0 => some ([], rest)
      | d + 1 => (splitForm? d rest).map fun r => (c :: r.1, r.2)
    else (splitForm? (if c = '\x7b' then depth + 1 else depth) rest).map fun r => (c :: r.1, r.2)

/-- A field with a form, and what follows it. -/
def withForm (name : List Char) (conversion : Option Char) (cs : List Char) :
    Except TemplateError (Part × List Char) :=
  match splitForm? 0 cs with
  | some (form, after) => .ok (.field name conversion form, after)
  | none => .error .unclosedForm

/-- A field after its opening brace, and what follows it. -/
def field (cs : List Char) : Except TemplateError (Part × List Char) :=
  match splitName false cs with
  | (_, []) => .error .unclosed
  | (name, c :: rest) =>
    if c = '\x7d' then .ok (.field name none [], rest)
    else if c = '\x7b' then .error .openingInName
    else if c = ':' then withForm name none rest
    else
      match rest with
      | [] => .error .noConversion
      | [_] => .error .unclosedForm
      | k :: d :: after =>
        if d = '\x7d' then .ok (.field name (some k) [], after)
        else if d = ':' then withForm name (some k) after
        else .error .noColon

/-- The parts of a template up to the first thing that is wrong with it. Doubled braces
stand for themselves. -/
def partsFrom : Nat → List Char → List Part × Option TemplateError
  | 0, _ => ([], none)
  | _ + 1, [] => ([], none)
  | fuel + 1, c :: rest =>
    let go (part : Part) (after : List Char) : List Part × Option TemplateError :=
      let (ps, e) := partsFrom fuel after
      (part :: ps, e)
    if c = '\x7b' then
      match rest with
      | [] => ([], some .loneOpening)
      | d :: more =>
        if d = '\x7b' then go (.text [c]) more
        else
          match field rest with
          | .ok (part, after) => go part after
          | .error e => ([], some e)
    else if c = '\x7d' then
      match rest with
      | d :: more => if d = '\x7d' then go (.text [c]) more else ([], some .loneClosing)
      | [] => ([], some .loneClosing)
    else go (.text [c]) rest

/-- The parts of a template. -/
def parts (cs : List Char) : List Part × Option TemplateError :=
  partsFrom (cs.length + 1) cs

/-- A value that fields can name: its kind, and its text in a form. -/
structure Value where
  kind : String
  shown : String → Except TemplateError String

/-- The greatest number of a place. -/
def greatestIndex : Nat := 9223372036854775807

/-- The number that a name consists of, if it is one. Digits of all scripts count. -/
def index? (name : List Char) : Except TemplateError (Option Nat) :=
  if name = [] then .ok none
  else
    (westernDigits name).foldl (fun n c => do
      match ← n with
      | none => return none
      | some n =>
        if !c.isDigit then return none
        let next := 10 * n + valueOfDigits [c]
        if greatestIndex < next then throw .longIndex
        return some next) (.ok (some 0))

/-- The first part of a field's name, and the rest of it. -/
def firstName (name : List Char) : List Char × List Char :=
  let isPlain : Char → Bool := fun c => c != '.' && c != '['
  (name.takeWhile isPlain, name.dropWhile isPlain)

/-- Why a value has no part of this name: no value has attributes or items. -/
def partError (v : Value) : List Char → TemplateError
  | '[' :: rest =>
    let item := rest.takeWhile (· != ']')
    if item.length = rest.length then .unclosedIndex
    else
      match index? item with
      | .error e => e
      | .ok _ => if item = [] then .emptyPart else .noItems v.kind
  | rest =>
    let name := (rest.drop 1).takeWhile fun c => c != '.' && c != '['
    if name = [] then .emptyPart else .noAttribute v.kind (String.ofList name)

/-- The value that a field names. -/
def valueOf (values : String → Option Value) (name : List Char) : Except TemplateError Value := do
  let (first, rest) := firstName name
  if first = [] ∨ (← index? first).isSome then throw .positional
  match values (String.ofList first) with
  | none => throw (.unknownName (String.ofList first))
  | some v => if rest = [] then return v else throw (partError v rest)

/-- The conversions of a value to its plain text. -/
def conversions : List Char := ['r', 's', 'a']

/-- The text of a template with fields in forms up to a depth. -/
def expand (values : String → Option Value) : Nat → List Char → Except TemplateError (List Char)
  | 0, _ => .error .tooDeep
  | depth + 1, cs => do
    let (ps, e) := parts cs
    let texts ← ps.mapM fun p => do
      match p with
      | .text cs => return cs
      | .field name conversion form => do
        let v ← valueOf values name
        match conversion with
        | some c => unless conversions.contains c do throw (.unknownConversion c)
        | none => pure ()
        let form ← if form.contains '\x7b' then expand values depth form else pure form
        return (← v.shown (String.ofList form)).toList
    match e with
    | some e => throw e
    | none => return texts.flatten

/-- How deep fields may stand in forms. -/
def depthLimit : Nat := 2

/-- The text of a template with names in it. Its braces are looked at before its
names. -/
def fill (values : String → Option Value) (template : String) : Except TemplateError String :=
  match (parts template.toList).2 with
  | some e => .error e
  | none => do return String.ofList (← expand values depthLimit template.toList)

end Template

end TexBuild
