import TexBuild.Number.Calendar
import TexBuild.Number.Power
import TexBuild.Text.Search
import TexBuild.Text.Template

namespace TexBuild

/-- A moment of a day as a clock in mean time shows it. -/
structure Moment where
  year : Nat
  month : Nat
  day : Nat
  hour : Nat
  minute : Nat
  second : Nat
  microsecond : Nat
deriving DecidableEq, Repr

namespace Moment

/-- A number with at least so many digits. -/
def digits (width n : Nat) : String :=
  let ds := Nat.toDigits 10 n
  String.ofList (List.replicate (width - ds.length) '0' ++ ds)

/-- The hour on a dial of twelve. -/
def dialHour (t : Moment) : Nat :=
  (t.hour + 11) % 12 + 1

/-- The half of the day. -/
def halfDay (t : Moment) : String :=
  if t.hour < 12 then "AM" else "PM"

/-- The day of the week, from zero for Monday on. -/
def weekday (t : Moment) : Nat :=
  Calendar.weekday t.year t.month t.day

/-- The number of the day in its year. -/
def dayOfYear (t : Moment) : Nat :=
  Calendar.dayOfYear t.year t.month t.day

def monthName (t : Moment) : String :=
  Calendar.monthNames.getD (t.month - 1) ""

def dayName (t : Moment) : String :=
  Calendar.dayNames.getD t.weekday ""

/-- The first three letters of a name. -/
def short (name : String) : String :=
  String.ofList (name.toList.take 3)

/-- The seconds since the day from which clocks count. -/
def seconds (t : Moment) : Nat :=
  (Calendar.ordinal t.year t.month t.day - Calendar.epoch) * 86400 + t.hour * 3600 + t.minute * 60 +
    t.second

/-- The words of a form and what they stand for, the longer ones first. -/
def words (t : Moment) : List (String × String) :=
  [("HH", digits 2 t.hour), ("H", digits 1 t.hour), ("hh", digits 2 t.dialHour), ("h", digits 1 t.dialHour),
    ("mm", digits 2 t.minute), ("m", digits 1 t.minute), ("ss", digits 2 t.second), ("s", digits 1 t.second),
    ("SSSSSS", digits 6 t.microsecond), ("SSSSS", digits 5 (t.microsecond / 10)),
    ("SSSS", digits 4 (t.microsecond / 100)), ("SSS", digits 3 (t.microsecond / 1000)),
    ("SS", digits 2 (t.microsecond / 10000)), ("S", digits 1 (t.microsecond / 100000)),
    ("YYYY", digits 4 t.year), ("YY", digits 2 (t.year % 100)),
    ("MMMM", t.monthName), ("MMM", short t.monthName), ("MM", digits 2 t.month), ("M", digits 1 t.month),
    ("DDDD", digits 3 t.dayOfYear), ("DDD", digits 1 t.dayOfYear), ("DD", digits 2 t.day), ("D", digits 1 t.day),
    ("ZZ", "+0000"), ("Z", "+00:00"), ("zz", "UTC"), ("A", t.halfDay), ("X", digits 1 t.seconds),
    ("x", digits 1 (t.seconds * 1000000 + t.microsecond)), ("E", digits 1 (t.weekday + 1)),
    ("Q", digits 1 ((t.month + 2) / 3)), ("dddd", t.dayName), ("ddd", short t.dayName), ("d", digits 1 t.weekday)]

/-- The mark at the end of a form for mean time. -/
def meanMark : List Char := "!UTC".toList

/-- The word that a text begins with. -/
def word? (t : Moment) (cs : List Char) : Option (String × String) :=
  t.words.find? fun w => w.1.toList.isPrefixOf cs

/-- What stands in brackets at the beginning of a text, if it is a word, a mark or
nothing, so that the brackets keep it as it is. -/
def kept? (t : Moment) : List Char → Option (List Char)
  | '[' :: rest =>
    let inside := rest.takeWhile (· != ']')
    let isWord : Bool := match t.word? inside with
      | some w => w.1.length == inside.length
      | none => false
    if inside.length < rest.length ∧ (inside = [] ∨ inside = meanMark ∨ isWord) then some inside else none
  | _ => none

/-- The text of a form made of words. What is no word stands for itself. -/
def spelled (t : Moment) : Nat → List Char → List Char
  | 0, _ => []
  | _ + 1, [] => []
  | fuel + 1, c :: rest =>
    match t.kept? (c :: rest) with
    | some inside => inside ++ spelled t fuel (rest.drop (inside.length + 1))
    | none =>
      match t.word? (c :: rest) with
      | some w => w.2.toList ++ spelled t fuel (rest.drop (w.1.length - 1))
      | none => c :: spelled t fuel rest

/-- What a letter after a percent sign stands for. -/
def directive? (t : Moment) (c : Char) : Option String :=
  [('%', "%"), ('n', "\n"), ('t', "\t"), ('Y', digits 4 t.year), ('y', digits 2 (t.year % 100)),
    ('m', digits 2 t.month), ('d', digits 2 t.day), ('H', digits 2 t.hour), ('I', digits 2 t.dialHour),
    ('M', digits 2 t.minute), ('S', digits 2 t.second), ('f', digits 6 t.microsecond),
    ('j', digits 3 t.dayOfYear), ('p', t.halfDay), ('z', "+0000"), ('Z', "UTC"),
    ('u', digits 1 (t.weekday + 1)), ('w', digits 1 ((t.weekday + 1) % 7)), ('A', t.dayName),
    ('a', short t.dayName), ('B', t.monthName), ('b', short t.monthName), ('s', digits 1 t.seconds)].lookup c

/-- The text of a form made of letters after percent signs. Other letters stand for
themselves with their sign. -/
def directed (t : Moment) : List Char → List Char
  | '%' :: c :: rest =>
    match t.directive? c with
    | some s => s.toList ++ directed t rest
    | none => '%' :: c :: directed t rest
  | c :: rest => c :: directed t rest
  | [] => []

/-- The form of a moment when none is given. -/
def usualForm : String := "%Y-%m-%dT%H:%M:%S.%f%z"

/-- Seven letters for a fraction of a second, of which there may be six. -/
def longFraction : List Char := List.replicate 7 'S'

/-- The moment in a form. -/
def shown (t : Moment) (form : String) : Except TemplateError String :=
  let cs := form.toList
  let cs := if meanMark.isSuffixOf cs then cs.take (cs.length - meanMark.length) else cs
  let cs := if cs = [] then usualForm.toList else cs
  if cs.contains '%' then .ok (String.ofList (t.directed cs))
  else if Text.holds longFraction cs then .error .longFraction
  else .ok (String.ofList (t.spelled (cs.length + 1) cs))

/-- The moment of a record. -/
def recordText (t : Moment) : String :=
  String.ofList (t.spelled 20 "YYYY-MM-DD HH:mm:ss".toList)

/-- The moment in the name of a directory. -/
def stamp (t : Moment) : String :=
  String.ofList (t.directed "%Y%m%d_%H%M%S".toList)

/-- The form of the moment in the name of a file when none is given. -/
def fileForm : String := "%Y-%m-%d_%H-%M-%S_%f"

/-- The moment as a value of templates for the names of files. -/
def templateValue (t : Moment) : Template.Value :=
  ⟨"FileDateFormatter", fun form => t.shown (if form = "" then fileForm else form)⟩

end Moment

end TexBuild
