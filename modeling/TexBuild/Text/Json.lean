import TexBuild.Text.Quoted

namespace TexBuild

/-- A document of the data notation in which results are handed to programs;
numbers are whole. -/
inductive Json where
  | null
  | bool (b : Bool)
  | number (n : Int)
  | string (s : String)
  | array (items : List Json)
  | object (fields : List (String × Json))

namespace Json

/-- A character inside a string: the short escapes, and units of sixteen bits in
hexadecimal for all that is not visible ASCII, two of them beyond the first
plane. -/
def escape (c : Char) : List Char :=
  let n := c.toNat
  if c = '"' ∨ c = '\\' then ['\\', c]
  else if c = '\n' then ['\\', 'n']
  else if c = '\r' then ['\\', 'r']
  else if c = '\t' then ['\\', 't']
  else if n = 8 then ['\\', 'b']
  else if n = 12 then ['\\', 'f']
  else if 0x20 ≤ n ∧ n < 0x7F then [c]
  else if n < 0x10000 then ['\\', 'u'] ++ Quoted.hexDigits 4 n
  else
    ['\\', 'u'] ++ Quoted.hexDigits 4 (0xD800 + (n - 0x10000) / 0x400) ++
      ['\\', 'u'] ++ Quoted.hexDigits 4 (0xDC00 + (n - 0x10000) % 0x400)

/-- A string between its quotes. -/
def quote (s : String) : List Char :=
  '"' :: s.toList.flatMap escape ++ ['"']

/-- A new line at the given depth, two blanks for each level. -/
def newline (depth : Nat) : List Char :=
  '\n' :: List.replicate (2 * depth) ' '

mutual

/-- The document in lines, one member of a list or field of a record on each, at
the given depth. -/
def renderAt (depth : Nat) : Json → List Char
  | null => "null".toList
  | bool true => "true".toList
  | bool false => "false".toList
  | number n => (toString n).toList
  | string s => quote s
  | array [] => ['[', ']']
  | array (x :: xs) =>
    '[' :: newline (depth + 1) ++ renderAt (depth + 1) x ++ renderItems (depth + 1) xs ++
      newline depth ++ [']']
  | object [] => ['\x7b', '\x7d']
  | object ((name, x) :: fields) =>
    '\x7b' :: newline (depth + 1) ++ quote name ++ [':', ' '] ++ renderAt (depth + 1) x ++
      renderFields (depth + 1) fields ++ newline depth ++ ['\x7d']

/-- The members of a list after its first. -/
def renderItems (depth : Nat) : List Json → List Char
  | [] => []
  | x :: xs => ',' :: newline depth ++ renderAt depth x ++ renderItems depth xs

/-- The fields of a record after its first. -/
def renderFields (depth : Nat) : List (String × Json) → List Char
  | [] => []
  | (name, x) :: fields =>
    ',' :: newline depth ++ quote name ++ [':', ' '] ++ renderAt depth x ++
      renderFields depth fields

end

/-- The document as text. -/
def render (x : Json) : String :=
  String.ofList (renderAt 0 x)

end Json

end TexBuild
