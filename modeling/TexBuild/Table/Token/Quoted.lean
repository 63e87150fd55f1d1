import TexBuild.Number.Numeral
import TexBuild.Table.Token.Gap

-- After PyYAML's scanner of flow scalars.

namespace TexBuild.Table.Quoted

/-- The letters behind a backslash and the characters that they stand for. -/
def letters : List (Char × Nat) :=
  [('0', 0x00), ('a', 0x07), ('b', 0x08), ('t', 0x09), ('\t', 0x09), ('n', 0x0A), ('v', 0x0B),
    ('f', 0x0C), ('r', 0x0D), ('e', 0x1B), (' ', 0x20), ('"', 0x22), ('/', 0x2F), ('\\', 0x5C),
    ('N', 0x85), ('_', 0xA0), ('L', 0x2028), ('P', 0x2029)]

/-- How many hexadecimal digits follow a letter behind a backslash. -/
def hexLength (c : Char) : Option Nat :=
  [('x', 2), ('u', 4), ('U', 8)].lookup c

/-- The character with the number that hexadecimal digits denote. -/
def hexChar? (n : Nat) (digits : List Char) : Option Char :=
  if digits.length = n ∧ digits.all (fun c => Numeral.digitValue c < 16) then
    let code := digits.foldl (fun code c => 16 * code + Numeral.digitValue c) 0
    if code.isValidChar then some (Char.ofNat code) else none
  else none

/-- The character that an escape stands for and what follows it. -/
def escape? : Source → Option (Char × Source)
  | [] => none
  | m :: rest =>
    match hexLength m.char with
    | some n => (hexChar? n ((rest.take n).map (·.char))).map fun c => (c, rest.drop n)
    | none => (letters.lookup m.char).map fun n => (Char.ofNat n, rest)

theorem length_of_escape? {s after : Source} {c : Char} (h : escape? s = some (c, after)) :
    after.length < s.length := by
  cases s with
  | nil => simp [escape?] at h
  | cons m rest =>
    simp only [escape?] at h
    split at h
    · obtain ⟨_, _, e⟩ := Option.map_eq_some_iff.1 h
      cases e
      simp only [List.length_drop, List.length_cons]
      omega
    · obtain ⟨_, _, e⟩ := Option.map_eq_some_iff.1 h
      cases e
      simp

/-- Reads a word between the quotes `quote`: up to white space or to the quote at the end.
Between single quotes a quote is written twice; between double ones there are escapes, one
of which breaks the line without a blank. Told is whether the word ends with it. -/
def word (quote : Char) (s : Source) : Except TableError (List Char × Bool × Source) :=
  match s with
  | [] => .ok ([], false, [])
  | m :: rest =>
    if isWordEnd m.char then .ok ([], false, m :: rest)
    else if m.char = quote then
      match rest with
      | n :: after =>
        if quote = '\'' ∧ n.char = quote then do
          let (cs, isCut, left) ← word quote after
          return (quote :: cs, isCut, left)
        else .ok ([], false, m :: n :: after)
      | [] => .ok ([], false, [m])
    else if quote = '"' ∧ m.char = '\\' then
      if isBreak (Source.peek rest) then .ok ([], true, rest.drop 1)
      else
        match _h : escape? rest with
        | some (c, after) => do
          let (cs, isCut, left) ← word quote after
          return (c :: cs, isCut, left)
        | none => .error .unscannable
    else do
      let (cs, isCut, left) ← word quote rest
      return (m.char :: cs, isCut, left)
termination_by s.length
decreasing_by
  · simp only [List.length_cons]; omega
  · have := length_of_escape? _h
    simp only [List.length_cons]; omega
  · simp

/-- Reads words up to the quote at the end. Neither the document nor a marker may come
before it. -/
def words (quote : Char) : Nat → Source → Except TableError (List Char × Source)
  | 0, _ => .error .unscannable
  | fuel + 1, s =>
    if s.startsAnyMarker || s.peek == endChar then .error .unscannable
    else do
      let (cs, isCut, rest) ← word quote s
      if rest.peek = quote then return (cs, rest.drop 1)
      else
        let (gap, rest) ← (if isCut then Gap.broken else Gap.none).read 0 rest
        let (more, after) ← words quote fuel rest
        return (cs ++ gap.text ++ more, after)

/-- Reads a text between quotes, from the opening quote on. -/
def read (s : Source) : Except TableError (List Char × Source) :=
  words s.peek s.length (s.drop 1)

end TexBuild.Table.Quoted
