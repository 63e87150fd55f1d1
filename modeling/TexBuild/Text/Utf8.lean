namespace TexBuild.Utf8

/-- Stands in a decoded text for octets that encode no character. -/
def replacement : Char := Char.ofNat 0xFFFD

/-- Where a decoder stands between two octets: at the start of a character, or
inside one whose leading bits are `value`, with `more + 1` octets to come, the
next of them between `low` and `high`. -/
inductive State where
  | ready
  | within (value more : Nat) (low high : UInt8)
deriving DecidableEq, Repr

/-- The state after an octet that opens a character of several octets. The
bounds on the octet after it leave out the overlong forms, the surrogates and
all beyond the last code point. -/
def State.opened (b : UInt8) : Option State :=
  let n := b.toNat
  if 0xC2 ≤ n ∧ n ≤ 0xDF then some (.within (n - 0xC0) 0 0x80 0xBF)
  else if n = 0xE0 then some (.within 0 1 0xA0 0xBF)
  else if n = 0xED then some (.within 0xD 1 0x80 0x9F)
  else if 0xE1 ≤ n ∧ n ≤ 0xEF then some (.within (n - 0xE0) 1 0x80 0xBF)
  else if n = 0xF0 then some (.within 0 2 0x90 0xBF)
  else if 0xF1 ≤ n ∧ n ≤ 0xF3 then some (.within (n - 0xF0) 2 0x80 0xBF)
  else if n = 0xF4 then some (.within 4 2 0x80 0x8F)
  else none

/-- One octet at the start of a character. -/
def State.start (b : UInt8) : List Char × State :=
  if b.toNat < 0x80 then ([Char.ofNat b.toNat], .ready)
  else
    match State.opened b with
    | some s => ([], s)
    | none => ([replacement], .ready)

/-- One octet: the characters that it completes and the state after it. An octet
that cannot go on with the character under way ends it with a replacement and is
read again as a first octet, so it is never swallowed. -/
def State.step : State → UInt8 → List Char × State
  | .ready, b => State.start b
  | .within value more low high, b =>
    if low ≤ b ∧ b ≤ high then
      let value' := 64 * value + (b.toNat - 0x80)
      match more with
      | 0 => ([Char.ofNat value'], .ready)
      | more' + 1 => ([], .within value' more' 0x80 0xBF)
    else (replacement :: (State.start b).1, (State.start b).2)

/-- What is owed at the end of the octets: a character cut short is replaced. -/
def State.close : State → List Char
  | .ready => []
  | .within .. => [replacement]

/-- Feeds one octet to a decoder that holds its characters newest first. -/
def State.feed (d : List Char × State) (b : UInt8) : List Char × State :=
  ((d.2.step b).1.reverse ++ d.1, (d.2.step b).2)

/-- The text that the octets encode, every longest ill-formed piece replaced. -/
def decode (bs : List UInt8) : List Char :=
  let d := bs.foldl State.feed ([], .ready)
  (d.2.close.reverse ++ d.1).reverse

/-- What is wrong with an octet that ends a piece which encodes no character: none
begins so, none goes on so, or it stops before it is whole. -/
inductive Flaw where
  | start
  | continuation
  | short
deriving DecidableEq, Repr

/-- The first piece of octets that encodes no character: where it stands, its
octets and what is wrong. -/
structure Misfit where
  position : Nat
  octets : List UInt8
  flaw : Flaw
deriving DecidableEq, Repr

/-- The first misfit of octets that begin at a position, with the octets of the
character under way. One that is cut short is told as if it stood alone. -/
def misfitFrom (position : Nat) (held : List UInt8) : State → List UInt8 → Option Misfit
  | .ready, [] => none
  | .within .., [] => some ⟨0, held, .short⟩
  | .ready, b :: rest =>
    if b.toNat < 0x80 then misfitFrom (position + 1) [] .ready rest
    else
      match State.opened b with
      | some s => misfitFrom position [b] s rest
      | none => some ⟨position, [b], .start⟩
  | .within value more low high, b :: rest =>
    if low ≤ b ∧ b ≤ high then
      match more with
      | 0 => misfitFrom (position + held.length + 1) [] .ready rest
      | more' + 1 =>
        misfitFrom position (held ++ [b]) (.within (64 * value + (b.toNat - 0x80)) more' 0x80 0xBF) rest
    else some ⟨position, held, .continuation⟩

/-- The first misfit of octets; none when they encode a text. -/
def misfit? (bs : List UInt8) : Option Misfit :=
  misfitFrom 0 [] .ready bs

/-- The octets of one character. -/
def encodeChar (c : Char) : List UInt8 :=
  let n := c.toNat
  if n < 0x80 then [n.toUInt8]
  else if n < 0x800 then [(0xC0 + n / 64).toUInt8, (0x80 + n % 64).toUInt8]
  else if n < 0x10000 then
    [(0xE0 + n / 4096).toUInt8, (0x80 + n / 64 % 64).toUInt8, (0x80 + n % 64).toUInt8]
  else
    [(0xF0 + n / 262144).toUInt8, (0x80 + n / 4096 % 64).toUInt8,
      (0x80 + n / 64 % 64).toUInt8, (0x80 + n % 64).toUInt8]

/-- The octets of a text. -/
def encode (cs : List Char) : List UInt8 :=
  cs.flatMap encodeChar

/-- The octets are the encoding of a text. -/
def isText (bs : List UInt8) : Bool :=
  encode (decode bs) == bs

end TexBuild.Utf8
