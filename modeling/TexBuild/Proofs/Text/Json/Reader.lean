import Mathlib.Data.List.Basic
import TexBuild.Text.Digit
import TexBuild.Text.Json
import TexBuild.Text.Search

namespace TexBuild.Json
open Text

/-- May stand between the parts of a document. -/
def isGap (c : Char) : Bool :=
  c == ' ' || c == '\t' || c == '\n' || c == '\r'

/-- What follows the blanks at the beginning. -/
def skip (cs : List Char) : List Char :=
  cs.dropWhile isGap

/-- The value of a hexadecimal digit, in small or capital letters. -/
def hexValue? (c : Char) : Option Nat :=
  if 0x30 ≤ c.toNat ∧ c.toNat ≤ 0x39 then some (c.toNat - 0x30)
  else if 0x61 ≤ c.toNat ∧ c.toNat ≤ 0x66 then some (c.toNat - 0x57)
  else if 0x41 ≤ c.toNat ∧ c.toNat ≤ 0x46 then some (c.toNat - 0x37)
  else none

/-- A unit of sixteen bits in four hexadecimal digits, and what follows them. -/
def unit? : List Char → Option (Nat × List Char)
  | a :: b :: c :: d :: rest => do
    let a ← hexValue? a
    let b ← hexValue? b
    let c ← hexValue? c
    let d ← hexValue? d
    return (((a * 16 + b) * 16 + c) * 16 + d, rest)
  | _ => none

/-- The character of one unit, or of two of which the first announces the second; one of
such two stands for nothing alone. -/
def unitChar? (cs : List Char) : Option (Char × List Char) := do
  let (high, rest) ← unit? cs
  if high < 0xD800 ∨ 0xE000 ≤ high then some (Char.ofNat high, rest)
  else do
    let (low, rest) ← (dropStart? ['\\', 'u'] rest).bind unit?
    if high < 0xDC00 ∧ 0xDC00 ≤ low ∧ low < 0xE000 then
      some (Char.ofNat (0x10000 + (high - 0xD800) * 0x400 + (low - 0xDC00)), rest)
    else none

/-- The characters for which a single letter stands behind a backslash. -/
def shortEscapes : List (Char × Char) :=
  [('"', '"'), ('\\', '\\'), ('/', '/'), ('b', '\x08'), ('f', '\x0c'), ('n', '\n'), ('r', '\r'),
    ('t', '\t')]

/-- The next character inside a string, which is none of the controls unless it is escaped. -/
def character? : List Char → Option (Char × List Char)
  | [] => none
  | c :: cs =>
    if c = '\\' then
      match cs with
      | [] => none
      | e :: rest => if e = 'u' then unitChar? rest else (shortEscapes.lookup e).map (·, rest)
    else if c = '"' ∨ c.toNat < 0x20 then none
    else some (c, cs)

/-- The rest of a string up to its closing quote. -/
def text? : Nat → List Char → Option (List Char × List Char)
  | 0, _ => none
  | n + 1, cs =>
    if cs.head? = some '"' then some ([], cs.tail)
    else do
      let (c, rest) ← character? cs
      let (more, rest) ← text? n rest
      return (c :: more, rest)

/-- Goes on as a fraction or with a power of ten. -/
def goesOn : List Char → Bool
  | [] => false
  | c :: _ => c == '.' || c == 'e' || c == 'E'

/-- A whole number without a sign. No zero stands before its value, and neither a fraction nor a
power of ten follows it. -/
def numeral? (cs : List Char) : Option (Nat × List Char) :=
  let digits := cs.takeWhile Char.isDigit
  let rest := cs.dropWhile Char.isDigit
  if digits = [] ∨ (digits.head? = some '0' ∧ digits ≠ ['0']) ∨ goesOn rest then none
  else some (valueOfDigits digits, rest)

/-- A whole number, perhaps behind a minus sign. -/
def number? (cs : List Char) : Option (Int × List Char) :=
  if cs.head? = some '-' then (numeral? cs.tail).map fun (n, rest) => (-(n : Int), rest)
  else (numeral? cs).map fun (n, rest) => ((n : Int), rest)

/-- The documents that are single words. -/
def words : List (String × Json) :=
  [("null", null), ("true", bool true), ("false", bool false)]

/-- A document without parts that is no string. -/
def scalar? (cs : List Char) : Option (Json × List Char) :=
  (words.findSome? fun (word, x) => (dropStart? word.toList cs).map (x, ·)).or
    ((number? cs).map fun (n, rest) => (number n, rest))

section
variable {α : Type} (close : Char) (member : List Char → Option (α × List Char))

/-- The members behind the first one, each after a comma, up to the closing mark. -/
def members? : Nat → List Char → Option (List α × List Char)
  | 0, _ => none
  | n + 1, cs =>
    match skip cs with
    | [] => none
    | c :: rest =>
      if c = close then some ([], rest)
      else if c = ',' then do
        let (x, rest) ← member rest
        let (xs, rest) ← members? n rest
        return (x :: xs, rest)
      else none

/-- The members of a list or a record behind its opening mark. -/
def enclosed? (n : Nat) (cs : List Char) : Option (List α × List Char) :=
  if (skip cs).head? = some close then some ([], (skip cs).tail)
  else do
    let (x, rest) ← member cs
    let (xs, rest) ← members? close member n rest
    return (x :: xs, rest)

end

/-- A field of a record: its name, a colon and its value. -/
def field? (value : List Char → Option (Json × List Char)) (n : Nat) (cs : List Char) :
    Option ((String × Json) × List Char) := do
  let rest ← dropStart? ['"'] (skip cs)
  let (name, rest) ← text? n rest
  let rest ← dropStart? [':'] (skip rest)
  let (x, rest) ← value rest
  return ((String.ofList name, x), rest)

/-- A document, perhaps behind blanks, and what follows it. The number bounds how long it is. -/
def value? : Nat → List Char → Option (Json × List Char)
  | 0, _ => none
  | n + 1, cs =>
    match skip cs with
    | [] => none
    | c :: rest =>
      if c = '"' then (text? n rest).map fun (s, rest) => (string (String.ofList s), rest)
      else if c = '[' then (enclosed? ']' (value? n) n rest).map fun (xs, rest) => (array xs, rest)
      else if c = '\x7b' then
        (enclosed? '\x7d' (field? (value? n) n) n rest).map fun (fs, rest) => (object fs, rest)
      else scalar? (c :: rest)

/-- The document that a text is, with at most blanks around it. -/
def read (cs : List Char) : Option Json := do
  let (x, rest) ← value? cs.length cs
  if skip rest = [] then some x else none

theorem hexValue?_hexDigit : ∀ d < 16, hexValue? (Quoted.hexDigit d) = some d := by
  decide

theorem unit?_hexDigits {n : Nat} (small : n < 0x10000) (rest : List Char) :
    unit? (Quoted.hexDigits 4 n ++ rest) = some (n, rest) := by
  have digit (m : Nat) := hexValue?_hexDigit (m % 16) (Nat.mod_lt m (by decide))
  have value : ((n / 16 / 16 / 16 % 16 * 16 + n / 16 / 16 % 16) * 16 + n / 16 % 16) * 16 + n % 16 = n := by
    omega
  simp only [Quoted.hexDigits, List.nil_append, List.cons_append, unit?, digit, Option.bind_eq_bind,
    Option.bind_some, value, Option.pure_def]

/-- The numbers between those of the two halves of a pair belong to no character. -/
theorem toNat_range (c : Char) : c.toNat < 0xD800 ∨ 0xE000 ≤ c.toNat ∧ c.toNat < 0x110000 := by
  have valid := c.valid
  simp only [UInt32.isValidChar, Nat.isValidChar] at valid
  change c.toNat < 0xD800 ∨ 0xDFFF < c.toNat ∧ c.toNat < 0x110000 at valid
  omega

theorem unitChar?_single {c : Char} (plane : c.toNat < 0x10000) (rest : List Char) :
    unitChar? (Quoted.hexDigits 4 c.toNat ++ rest) = some (c, rest) := by
  have alone : c.toNat < 0xD800 ∨ 0xE000 ≤ c.toNat := by
    have := toNat_range c
    omega
  simp only [unitChar?, unit?_hexDigits plane, Option.bind_eq_bind, Option.bind_some, if_pos alone,
    Char.ofNat_toNat]

theorem unitChar?_pair {high low : Nat} (leads : 0xD800 ≤ high ∧ high < 0xDC00)
    (trails : 0xDC00 ≤ low ∧ low < 0xE000) (rest : List Char) :
    unitChar? (Quoted.hexDigits 4 high ++ '\\' :: 'u' :: (Quoted.hexDigits 4 low ++ rest)) =
      some (Char.ofNat (0x10000 + (high - 0xD800) * 0x400 + (low - 0xDC00)), rest) := by
  have pair : ¬ (high < 0xD800 ∨ 0xE000 ≤ high) := by omega
  have next (cs : List Char) : dropStart? ['\\', 'u'] ('\\' :: 'u' :: cs) = some cs := rfl
  simp only [unitChar?, unit?_hexDigits (show high < 0x10000 by omega),
    unit?_hexDigits (show low < 0x10000 by omega), Option.bind_eq_bind, Option.bind_some, if_neg pair,
    next, if_pos (And.intro leads.2 trails)]

theorem character?_escape (c : Char) (rest : List Char) :
    character? (escape c ++ rest) = some (c, rest) := by
  simp only [escape]
  split_ifs with marked feed ret tab back form shown plane
  · obtain rfl | rfl := marked <;> rfl
  · rw [feed]; rfl
  · rw [ret]; rfl
  · rw [tab]; rfl
  · rw [show c = '\x08' from Char.toNat_inj.mp back]; rfl
  · rw [show c = '\x0c' from Char.toNat_inj.mp form]; rfl
  · obtain ⟨notQuote, notSlash⟩ := not_or.mp marked
    have plain : ¬ (c = '"' ∨ c.toNat < 0x20) := not_or.mpr ⟨notQuote, by omega⟩
    rw [List.singleton_append, character?.eq_def]
    simp only [if_neg notSlash, if_neg plain]
  · exact unitChar?_single plane rest
  · have range := toNat_range c
    have whole : 0x10000 + (0xD800 + (c.toNat - 0x10000) / 0x400 - 0xD800) * 0x400 +
        (0xDC00 + (c.toNat - 0x10000) % 0x400 - 0xDC00) = c.toNat := by omega
    have leads : 0xD800 ≤ 0xD800 + (c.toNat - 0x10000) / 0x400 ∧
        0xD800 + (c.toNat - 0x10000) / 0x400 < 0xDC00 := by omega
    have trails : 0xDC00 ≤ 0xDC00 + (c.toNat - 0x10000) % 0x400 ∧
        0xDC00 + (c.toNat - 0x10000) % 0x400 < 0xE000 := by omega
    have pair := unitChar?_pair leads trails rest
    rw [whole, Char.ofNat_toNat] at pair
    rw [List.append_assoc, List.append_assoc]
    exact pair

theorem text?_flatMap_escape {n : Nat} {cs : List Char} (enough : cs.length < n) (rest : List Char) :
    text? n (cs.flatMap escape ++ '"' :: rest) = some (cs, rest) := by
  induction cs generalizing n with
  | nil =>
    obtain ⟨n, rfl⟩ := Nat.exists_eq_add_of_lt enough
    rfl
  | cons c cs ih =>
    obtain ⟨n, rfl⟩ := Nat.exists_eq_succ_of_ne_zero (Nat.ne_zero_of_lt enough)
    have char := character?_escape c (cs.flatMap escape ++ '"' :: rest)
    have opened : (escape c ++ (cs.flatMap escape ++ '"' :: rest)).head? ≠ some '"' := by
      intro closing
      obtain ⟨_, quoted⟩ := List.head?_eq_some_iff.mp closing
      rw [quoted] at char
      cases char
    rw [List.flatMap_cons, List.append_assoc, text?, if_neg opened, char]
    simp only [Option.bind_eq_bind, Option.bind_some, ih (Nat.lt_of_succ_lt_succ enough), Option.pure_def]

/-- What is written behind a document: nothing more, a comma or a new line. -/
def Follows (rest : List Char) : Prop :=
  ∀ c ∈ rest.head?, c = ',' ∨ c = '\n'

variable {rest : List Char}

theorem head?_toDigits_ne {n : Nat} (positive : 0 < n) : (Nat.toDigits 10 n).head? ≠ some '0' := by
  induction n using Nat.strongRecOn with
  | ind n ih =>
    rw [Nat.toDigits_eq_if (by decide)]
    have digit : ∀ m < 10, 0 < m → [m.digitChar].head? ≠ some '0' := by decide
    split
    · exact digit n ‹_› positive
    · rw [List.head?_append_of_ne_nil _ Nat.toDigits_ne_nil]
      exact ih (n / 10) (by omega) (by omega)

/-- Reading stops behind the digits of a number. -/
theorem span_toDigits (follows : Follows rest) (n : Nat) :
    (Nat.toDigits 10 n ++ rest).takeWhile Char.isDigit = Nat.toDigits 10 n ∧
      (Nat.toDigits 10 n ++ rest).dropWhile Char.isDigit = rest := by
  refine span_digits (fun c first => ?_) n
  obtain rfl | rfl := follows c first <;> rfl

theorem numeral?_toDigits (follows : Follows rest) (n : Nat) :
    numeral? (Nat.toDigits 10 n ++ rest) = some (n, rest) := by
  obtain ⟨digits, tail⟩ := span_toDigits follows n
  have value : valueOfDigits (Nat.toDigits 10 n) = n := Nat.ofDigitChars_ten_toDigits
  have led : ¬ ((Nat.toDigits 10 n).head? = some '0' ∧ Nat.toDigits 10 n ≠ ['0']) := by
    rintro ⟨zero, longer⟩
    obtain rfl | positive := Nat.eq_zero_or_pos n
    · exact longer rfl
    · exact head?_toDigits_ne positive zero
  have whole : goesOn rest = false := by
    cases rest with
    | nil => rfl
    | cons c rest => obtain rfl | rfl := follows c rfl <;> rfl
  simp only [numeral?, digits, tail, value, led, whole, Nat.toDigits_ne_nil, Bool.false_eq_true, or_self,
    if_false]

/-- The digits of a number begin with one. -/
theorem exists_toDigits (n : Nat) :
    ∃ d ds, Nat.toDigits 10 n = d :: ds ∧ d.isDigit = true := by
  obtain ⟨d, ds, digits⟩ := List.exists_cons_of_ne_nil (Nat.toDigits_ne_nil (n := n) (b := 10))
  refine ⟨d, ds, digits, Nat.isDigit_of_mem_toDigits (by decide) (by decide) (b := 10) (n := n) ?_⟩
  rw [digits]
  exact .head _

theorem toList_toString_of_nonneg {n : Int} (nonneg : 0 ≤ n) :
    (toString n).toList = Nat.toDigits 10 n.natAbs := by
  have value : n.toNat = n.natAbs := by omega
  rw [Int.toString_eq_repr, Int.repr_eq_if, if_pos nonneg, Nat.toList_repr, value]

theorem toList_toString_of_neg {n : Int} (negative : n < 0) :
    (toString n).toList = '-' :: Nat.toDigits 10 n.natAbs := by
  have value : (-n).toNat = n.natAbs := by omega
  rw [Int.toString_eq_repr, Int.repr_eq_if, if_neg (Int.not_le.mpr negative), String.toList_append,
    Nat.toList_repr, value]
  rfl

theorem number?_toString (follows : Follows rest) (n : Int) :
    number? ((toString n).toList ++ rest) = some (n, rest) := by
  by_cases negative : n < 0
  · rw [toList_toString_of_neg negative, number?, List.cons_append, List.head?_cons, if_pos rfl,
      List.tail_cons, numeral?_toDigits follows, Option.map_some]
    have value : -(n.natAbs : Int) = n := by omega
    exact congrArg (fun m => some (m, rest)) value
  · have nonneg := Int.not_lt.mp negative
    obtain ⟨d, ds, digits, digit⟩ := exists_toDigits n.natAbs
    have unsigned : (Nat.toDigits 10 n.natAbs ++ rest).head? ≠ some '-' := by
      rw [digits]
      rintro ⟨⟩
      cases digit
    rw [toList_toString_of_nonneg nonneg, number?, if_neg unsigned, numeral?_toDigits follows,
      Option.map_some]
    exact congrArg (fun m => some (m, rest)) (Int.natAbs_of_nonneg nonneg)

/-- A number begins as nothing else in a document does. -/
theorem exists_toString (n : Int) :
    ∃ c cs, (toString n).toList = c :: cs ∧ ∀ d, d ≠ '-' → d.isDigit = false → c ≠ d := by
  obtain ⟨c, cs, digits, digit⟩ := exists_toDigits n.natAbs
  by_cases negative : n < 0
  · exact ⟨'-', _, toList_toString_of_neg negative, fun d other _ same => other same.symm⟩
  · refine ⟨c, cs, (toList_toString_of_nonneg (Int.not_lt.mp negative)).trans digits, ?_⟩
    rintro d - none rfl
    rw [none] at digit
    cases digit

theorem scalar?_toString (follows : Follows rest) (n : Int) :
    scalar? ((toString n).toList ++ rest) = some (number n, rest) := by
  have word : words.findSome? (fun (word, x) =>
      (dropStart? word.toList ((toString n).toList ++ rest)).map (x, ·)) = none := by
    obtain ⟨c, cs, written, first⟩ := exists_toString n
    have other (d : Char) (sign : d ≠ '-') (none : d.isDigit = false) : (d == c) = false :=
      beq_false_of_ne (first d sign none).symm
    rw [written]
    simp [words, dropStart?, dropPattern?, other]
  rw [scalar?, word, number?_toString follows]
  rfl

end TexBuild.Json
