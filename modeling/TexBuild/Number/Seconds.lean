import TexBuild.Number.Shortest

namespace TexBuild

/-- A span of time in seconds: a whole number of any size or a binary one. -/
inductive Seconds where
  | whole (n : Int)
  | binary (x : Binary64)
deriving DecidableEq, Repr

/-- Why a span has no text or no binary form: it is not a number of units, has more
digits than are written, or is beyond the format. -/
inductive SpanError where
  | infinite
  | nan
  | long
  | large
deriving DecidableEq, Repr

/-- The most digits of a whole number that is written out. -/
def digitLimit : Nat := 4300

/-- A whole number in decimal digits, unless it has too many. -/
def wholeText (n : Int) : Except SpanError String :=
  let digits := Nat.toDigits 10 n.natAbs
  if digitLimit < digits.length then .error .long
  else .ok (String.ofList (if n < 0 then '-' :: digits else digits))

/-- The two digits of a number below one hundred. -/
def twoDigits (n : Nat) : List Char :=
  [Nat.digitChar (n / 10 % 10), Nat.digitChar (n % 10)]

/-- A number of hundredths with the point before its last two digits. -/
def hundredthsText (n : Nat) : List Char :=
  Nat.toDigits 10 (n / 100) ++ '.' :: twoDigits (n % 100)

/-- The span of `num / den` seconds in at most two units. Below one second these
are whole milliseconds, below one minute hundredths of a second, a tie going to
the even one, and from there on minutes and whole seconds. -/
def clockText (num den : Nat) : List Char :=
  if num < den then Nat.toDigits 10 (1000 * num / den) ++ ['m', 's']
  else if num < 60 * den then hundredthsText (roundEven (100 * num) den) ++ ['s']
  else
    Nat.toDigits 10 (num / den / 60) ++ ['m', ' '] ++ Nat.toDigits 10 (num / den % 60) ++ ['s']

namespace Seconds

/-- The whole milliseconds of a span. A binary span is first multiplied in its
own format, then cut off toward zero. -/
def milliseconds : Seconds → Except SpanError Int
  | whole n => .ok (1000 * n)
  | binary x =>
    match x.scale 1000 with
    | .nan => .error .nan
    | .infinite _ => .error .infinite
    | .finite negative m e =>
      let n : Int := ((Binary64.fraction m e).1 / (Binary64.fraction m e).2 : Nat)
      .ok (if negative then -n else n)

/-- A span of less than one second. -/
def belowOne : Seconds → Bool
  | whole n => n < 1
  | binary x => x.ltNat 1

/-- The span as a fraction, for one that is a number and not negative. -/
def ratio : Seconds → Except SpanError (Nat × Nat)
  | whole n => .ok (n.toNat, 1)
  | binary (.finite _ m e) => .ok (Binary64.fraction m e)
  | binary (.infinite _) => .error .infinite
  | binary .nan => .error .nan

/-- The span for reports, as `clockText` writes it. What lies below one second,
negative spans too, is a number of milliseconds. -/
def clock (s : Seconds) : Except SpanError String :=
  if s.belowOne then do
    return (← wholeText (← s.milliseconds)) ++ "ms"
  else do
    let (num, den) ← s.ratio
    -- only the minutes can have too many digits
    let _ ← wholeText (num / den / 60)
    return String.ofList (clockText num den)

/-- The span as a plain number. -/
def text : Seconds → String
  | whole n => toString n
  | binary x => x.toText

/-- The span can be written as a plain number: one that is whole has not too many digits. -/
def written : Seconds → Except SpanError Unit
  | whole n => (wholeText n).map fun _ => ()
  | binary _ => .ok ()

/-- The span in the binary format, if the format reaches so far. -/
def toBinary : Seconds → Except SpanError Binary64
  | whole n =>
    match Binary64.ofInt n with
    | .infinite _ => .error .large
    | x => .ok x
  | binary x => .ok x

/-- The span is above zero. -/
def isPositive : Seconds → Bool
  | whole n => 0 < n
  | binary (.finite negative m _) => !negative && m != 0
  | binary (.infinite negative) => !negative
  | binary .nan => false

/-- No time at all. -/
def zero : Seconds :=
  binary (.finite false 0 Binary64.minExponent)

end Seconds

/-- What the clock of a system reads, in seconds: a finite number, no farther from zero than the
clock reaches. -/
structure TimeStamp where
  negative : Bool
  mantissa : Nat
  exponent : Int
  inReach : (Binary64.fraction mantissa exponent).1 <
    twoTo 34 * (Binary64.fraction mantissa exponent).2

/-- The reading as a number. -/
def TimeStamp.value (t : TimeStamp) : Binary64 :=
  .finite t.negative t.mantissa t.exponent

/-- What the clock reads at the beginning and at the end of a build. It may be set in between. -/
structure Timing where
  started : TimeStamp
  ended : TimeStamp

/-- The span between two readings, below zero where the clock was set back. -/
def Timing.elapsed (t : Timing) : Seconds :=
  .binary (t.ended.value.add t.started.value.negate)

/-- A clock that stands at its zero. -/
def Timing.still : Timing :=
  let zero : TimeStamp := ⟨false, 0, Binary64.minExponent, by decide +kernel⟩
  ⟨zero, zero⟩

end TexBuild
