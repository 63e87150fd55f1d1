import TexBuild.Text.Regular

-- After PyYAML's implicit resolver, with OmegaConf's expression for real numbers.

namespace TexBuild.Table

/-- What a value of a document says it is. -/
inductive Tag where
  | null
  | truth
  | whole
  | real
  | text
  | octets
  | instant
  | merge
  | value
  | list
  | record
  | members
  | pairs
  | orderedPairs
  | path
  | foreignPath
  | unknown
deriving DecidableEq

namespace Tag

/-- What the tags of the notation itself begin with. -/
def start : String := "tag:yaml.org,2002:"

/-- The names of tags behind their common beginning. -/
def names : List (String × Tag) :=
  [("null", null), ("bool", truth), ("int", whole), ("float", real), ("str", text),
    ("binary", octets), ("timestamp", instant), ("merge", merge), ("value", value), ("seq", list),
    ("map", record), ("set", members), ("pairs", pairs), ("omap", orderedPairs),
    ("python/object/apply:pathlib.Path", path), ("python/object/apply:pathlib.PosixPath", path),
    ("python/object/apply:pathlib.WindowsPath", foreignPath)]

/-- The meaning of a whole tag. -/
def ofText (s : String) : Tag :=
  ((names.find? fun n => start ++ n.1 == s).map (·.2)).getD unknown

open Regular

/-- A digit. -/
def digit : Regular := one Char.isDigit

/-- A digit or the low line that may stand among digits. -/
def runChar : Regular := one fun c => c.isDigit || c == '_'

/-- A sign or none. -/
def sign : Regular := optional (oneOf ['-', '+'])

/-- A part of a time after its first: one digit, or two of which the first is below six. -/
def clockPart : Regular :=
  row [char ':', optional (one fun c => '0' ≤ c && c ≤ '5'), digit]

/-- Digits in groups, with single low lines between. -/
def grouped : Regular :=
  row [repeated digit, many (row [char '_', repeated digit])]

/-- A power of ten behind the letter e, its sign. -/
def power (sign : Regular) : Regular :=
  row [oneOf ['e', 'E'], sign, repeated digit]

/-- Words for truth values. -/
def truthWord : Regular :=
  words ["yes", "Yes", "YES", "no", "No", "NO", "true", "True", "TRUE", "false", "False", "FALSE",
    "on", "On", "ON", "off", "Off", "OFF"]

/-- Words for whole numbers: binary, octal, decimal, hexadecimal ones and times. -/
def wholeWord : Regular :=
  row [sign, anyOf
    [row [word "0b", repeated (oneOf ['0', '1', '_'])],
      row [char '0', repeated (one fun c => ('0' ≤ c && c ≤ '7') || c == '_')],
      char '0',
      row [one fun c => '1' ≤ c && c ≤ '9', many runChar, many clockPart],
      row [word "0x", repeated (one fun c =>
        c.isDigit || ('a' ≤ c && c ≤ 'f') || ('A' ≤ c && c ≤ 'F') || c == '_')]]]

/-- Words for other numbers: with a point, with a power of ten, times with a point,
infinities and none at all. -/
def realWord : Regular :=
  let signed := oneOf ['-', '+']
  anyOf
    [row [sign, digit, many runChar, char '.', many runChar, optional (power signed)],
      row [sign, grouped, char '.', many runChar, optional (power sign)],
      row [sign, grouped, power sign],
      row [char '.', digit, many runChar, optional (power signed)],
      row [sign, digit, many runChar, repeated clockPart, char '.', many runChar],
      row [sign, words [".inf", ".Inf", ".INF"]],
      words [".nan", ".NaN", ".NAN"]]

/-- Words for no value. -/
def nullWord : Regular :=
  words ["", "~", "null", "Null", "NULL"]

/-- What a word without quotes and tag is. -/
def ofWord (cs : List Char) : Tag :=
  if truthWord.accepts cs then truth
  else if wholeWord.accepts cs then whole
  else if realWord.accepts cs then real
  else if cs = ['<', '<'] then merge
  else if nullWord.accepts cs then null
  else if cs = ['='] then value
  else text

end Tag

end TexBuild.Table
