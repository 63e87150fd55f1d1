import Mathlib.Algebra.Order.Field.Rat
import Mathlib.Tactic.Linarith
import Mathlib.Tactic.Positivity
import TexBuild.Number.Seconds
import TexBuild.Proofs.Except
import TexBuild.Proofs.Number.Rounding
import TexBuild.Text.Digit

namespace TexBuild

/-- What a clock shows: whole milliseconds, seconds with two decimal places, or whole minutes and
seconds. -/
inductive ClockReading where
  | milliseconds (n : Nat)
  | seconds (whole : Nat) (tenths hundredths : Fin 10)
  | minutes (m s : Nat)
deriving DecidableEq

namespace ClockReading

/-- The text of a reading. -/
def text : ClockReading → String
  | milliseconds n => s!"{n}ms"
  | seconds whole tenths hundredths => s!"{whole}.{tenths}{hundredths}s"
  | minutes m s => s!"{m}m {s}s"

/-- The number of units of its last place that a reading shows. -/
def count : ClockReading → Nat
  | milliseconds n => n
  | seconds whole tenths hundredths => 100 * whole + 10 * tenths + hundredths
  | minutes m s => 60 * m + s

/-- The number of these units in a second. -/
def perSecond : ClockReading → Nat
  | milliseconds _ => 1000
  | seconds .. => 100
  | minutes .. => 1

/-- The time that is shown, in seconds. -/
def time (r : ClockReading) : ℚ :=
  r.count / r.perSecond

/-- One unit of the last place, in seconds. -/
def unit (r : ClockReading) : ℚ :=
  1 / r.perSecond

/-- Less than a second is shown in milliseconds, less than a minute in seconds, and the rest in minutes
and what is left of the last one. -/
def InRange : ClockReading → Prop
  | milliseconds n => n < 1000
  | seconds whole .. => 1 ≤ whole ∧ whole < 60
  | minutes m s => 1 ≤ m ∧ s < 60

theorem toList_text (r : ClockReading) : r.text.toList =
    match r with
    | milliseconds n => Nat.toDigits 10 n ++ ['m', 's']
    | seconds whole tenths hundredths =>
      Nat.toDigits 10 whole ++ ['.', Nat.digitChar tenths, Nat.digitChar hundredths, 's']
    | minutes m s => Nat.toDigits 10 m ++ ('m' :: ' ' :: (Nat.toDigits 10 s ++ ['s'])) := by
  have digit (d : Fin 10) : (toString d).toList = [Nat.digitChar d] := by
    revert d
    decide
  have plain (s : String) : toString s = s := rfl
  cases r with
  | milliseconds n => simp [text, plain]
  | seconds whole tenths hundredths => simp [text, plain, digit]
  | minutes m s => simp [text, plain]

theorem digitChar_inj {a b : Fin 10} (same : Nat.digitChar a = Nat.digitChar b) : a = b := by
  revert a b
  decide

/-- A text is that of one reading at most. -/
theorem text_injective {r r' : ClockReading} (same : r.text = r'.text) : r = r' := by
  have spelled := congrArg String.toList same
  rw [toList_text, toList_text] at spelled
  cases r <;> cases r' <;> obtain ⟨number, rest⟩ := toDigits_append_inj (by simp) (by simp) spelled
  case milliseconds.milliseconds => rw [number]
  case seconds.seconds =>
    simp only [List.cons.injEq, true_and, and_true] at rest
    rw [number, digitChar_inj rest.1, digitChar_inj rest.2]
  case minutes.minutes =>
    simp only [List.cons.injEq, true_and] at rest
    rw [number, (toDigits_append_inj (by simp) (by simp) rest).1]
  all_goals simp at rest

/-- The reading of a number of hundredths of a second. -/
def ofHundredths (n : Nat) : ClockReading :=
  .seconds (n / 100) ⟨n % 100 / 10 % 10, Nat.mod_lt _ (by decide)⟩
    ⟨n % 100 % 10, Nat.mod_lt _ (by decide)⟩

theorem count_ofHundredths (n : Nat) : (ofHundredths n).count = n := by
  simp only [ofHundredths, count]
  omega

theorem text_ofHundredths (n : Nat) :
    (ofHundredths n).text = String.ofList (hundredthsText n ++ ['s']) := by
  refine String.toList_injective ?_
  rw [toList_text, String.toList_ofList, hundredthsText, List.append_assoc]
  rfl

end ClockReading

variable {num den : Nat}

/-- A text tells a span of `q` seconds: exactly one reading is written so, and it shows the span up to
less than one unit of its last place. The units are those for a span of its size, but the last half
hundredth of a second below a minute is shown as sixty seconds. -/
def TellsTime (q : ℚ) (text : String) : Prop :=
  ∃ r : ClockReading, (∀ r' : ClockReading, r'.text = text ↔ r' = r) ∧ |r.time - q| < r.unit ∧
    if 59.995 ≤ q ∧ q < 60 then r = .seconds 60 0 0 else r.InRange

/-- A reading tells a fraction if its units are less than one away from those of the fraction. -/
theorem ClockReading.tellsTime (r : ClockReading) (pos : 0 < den)
    (above : r.count * den < r.perSecond * num + den) (below : r.perSecond * num < (r.count + 1) * den)
    (units : if 11999 * den ≤ 200 * num ∧ num < 60 * den then r = .seconds 60 0 0 else r.InRange) :
    TellsTime (num / den) r.text := by
  have pos' : (0 : ℚ) < den := by exact_mod_cast pos
  refine ⟨r, fun r' => ⟨text_injective, congrArg text⟩, ?_, ?_⟩
  · have several : (0 : ℚ) < r.perSecond := by cases r <;> norm_num [perSecond]
    have above' : (r.count * den : ℚ) < r.perSecond * num + den := by exact_mod_cast above
    have below' : (r.perSecond * num : ℚ) < (r.count + 1) * den := by exact_mod_cast below
    have cross : r.time - num / den = (r.count * den - r.perSecond * num) / (r.perSecond * den) := by
      rw [time, div_sub_div _ _ several.ne' pos'.ne']
    have one : r.unit = den / (r.perSecond * den) := by
      rw [unit, mul_comm, ← div_div, div_self pos'.ne']
    rw [cross, one, abs_lt, ← neg_div, div_lt_div_iff_of_pos_right (by positivity),
      div_lt_div_iff_of_pos_right (by positivity)]
    constructor <;> linarith
  · have last : (59.995 : ℚ) ≤ num / den ↔ 11999 * den ≤ 200 * num := by
      rw [le_div_iff₀ pos', ← @Nat.cast_le ℚ]
      push_cast
      constructor <;> intro h <;> linarith
    have minute : (num / den : ℚ) < 60 ↔ num < 60 * den := by
      rw [div_lt_iff₀ pos']
      exact_mod_cast Iff.rfl
    simpa only [last, minute] using units

theorem tellsTime_milliseconds (short : num < den) :
    TellsTime (num / den) (ClockReading.milliseconds (1000 * num / den)).text := by
  have pos : 0 < den := Nat.zero_lt_of_lt short
  have few : 1000 * num / den < 1000 := (Nat.div_lt_iff_lt_mul pos).mpr (by omega)
  refine ClockReading.tellsTime _ pos ?_ ?_ (by rwa [if_neg (by omega)])
  · exact Nat.lt_of_le_of_lt (Nat.div_mul_le_self _ _) (Nat.lt_add_of_pos_right pos)
  · exact Nat.lt_mul_of_div_lt (Nat.lt_succ_self _) pos

theorem tellsTime_hundredths (some : den ≤ num) (less : num < 60 * den) :
    TellsTime (num / den) (ClockReading.ofHundredths (roundEven (100 * num) den)).text := by
  have pos : 0 < den := by omega
  obtain ⟨high, low⟩ := @roundEven_bounds (100 * num) den pos
  have least := @roundEven_lt_iff (100 * num) den 100 pos rfl
  have most := @roundEven_lt_iff (100 * num) den 6000 pos rfl
  generalize roundEven (100 * num) den = n at high low least most
  have count := ClockReading.count_ofHundredths n
  refine ClockReading.tellsTime _ pos ?_ ?_ ?_
  · rw [Nat.mul_assoc] at low
    rw [count, ClockReading.ofHundredths, ClockReading.perSecond]
    omega
  · rw [Nat.add_mul, Nat.mul_assoc] at high
    rw [count, ClockReading.ofHundredths, ClockReading.perSecond, Nat.add_mul]
    omega
  · split
    · -- the last half hundredth is rounded up to the minute
      have top : 2 * n < 12001 := Nat.lt_of_mul_lt_mul_right (a := den) (by omega)
      obtain rfl : n = 6000 := by omega
      rfl
    · show 1 ≤ n / 100 ∧ n / 100 < 60
      omega

theorem tellsTime_minutes (pos : 0 < den) (long : 60 * den ≤ num) :
    TellsTime (num / den) (ClockReading.minutes (num / den / 60) (num / den % 60)).text := by
  have count : (ClockReading.minutes (num / den / 60) (num / den % 60)).count = num / den :=
    Nat.div_add_mod _ _
  have several : 60 ≤ num / den := (Nat.le_div_iff_mul_le pos).mpr long
  refine ClockReading.tellsTime _ pos ?_ ?_ ?_
  · rw [count, ClockReading.perSecond, Nat.one_mul]
    exact Nat.lt_of_le_of_lt (Nat.div_mul_le_self _ _) (Nat.lt_add_of_pos_right pos)
  · rw [count, ClockReading.perSecond, Nat.one_mul]
    exact Nat.lt_mul_of_div_lt (Nat.lt_succ_self _) pos
  · rw [if_neg (by omega)]
    exact ⟨by omega, Nat.mod_lt _ (by decide)⟩

theorem tellsTime_clockText (pos : 0 < den) :
    TellsTime (num / den) (String.ofList (clockText num den)) := by
  unfold clockText
  split
  · next short =>
    have text : String.ofList (Nat.toDigits 10 (1000 * num / den) ++ ['m', 's']) =
        (ClockReading.milliseconds (1000 * num / den)).text :=
      String.toList_injective (by rw [ClockReading.toList_text, String.toList_ofList])
    exact text ▸ tellsTime_milliseconds short
  next some =>
  split
  · next less => exact ClockReading.text_ofHundredths _ ▸ tellsTime_hundredths (Nat.not_lt.mp some) less
  · next long =>
    have text : String.ofList (Nat.toDigits 10 (num / den / 60) ++ ['m', ' '] ++
        Nat.toDigits 10 (num / den % 60) ++ ['s']) =
        (ClockReading.minutes (num / den / 60) (num / den % 60)).text := by
      refine String.toList_injective ?_
      rw [ClockReading.toList_text, String.toList_ofList]
      simp only [List.append_assoc, List.cons_append, List.nil_append]
    exact text ▸ tellsTime_minutes pos (Nat.not_lt.mp long)

namespace Seconds
variable {s : Seconds} {q : ℚ}

/-- The span is `q` seconds. A binary one is a finite number of the format. -/
inductive Lasts : Seconds → ℚ → Prop
  | whole (n : Int) : Lasts (.whole n) n
  | binary (negative : Bool) {m : Nat} {e : Int} (mantissa : m < 2 ^ 53)
      (exponent : e ≤ Binary64.maxExponent) :
      Lasts (.binary (.finite negative m e)) ((if negative then -1 else 1) * (m * 2 ^ e))

theorem wholeText_natCast (n : Nat) :
    wholeText n = if n < 10 ^ digitLimit then .ok (toString n) else .error .long := by
  have digits : digitLimit < (Nat.toDigits 10 n).length ↔ ¬ n < 10 ^ digitLimit := by
    rw [← Nat.length_toDigits_le_iff (by decide) (by decide), Nat.not_le]
  unfold wholeText
  dsimp only
  rw [Int.natAbs_natCast, if_neg (by omega : ¬ (n : Int) < 0), Nat.toString_eq_ofList_toDigits]
  simp only [digits, ite_not]

theorem clock_of_not_belowOne (long : s.belowOne = false) (ratio : s.ratio = .ok (num, den)) :
    s.clock = if num / den / 60 < 10 ^ digitLimit then .ok (String.ofList (clockText num den))
      else .error .long := by
  have minutes : wholeText (num / den / 60) =
      if num / den / 60 < 10 ^ digitLimit then .ok (toString (num / den / 60)) else .error .long :=
    wholeText_natCast (num / den / 60)
  rw [clock, if_neg (by rw [long]; decide), ratio]
  show (wholeText _ >>= fun _ => _) = _
  rw [minutes]
  split <;> rfl

/-- The milliseconds of a binary span of less than a second are those of the span itself, up to less
than one, and below a thousand. -/
theorem exists_milliseconds_of_lt {negative : Bool} {m : Nat} {e : Int} (mantissa : m < 2 ^ 53)
    (less : (Binary64.fraction m e).1 < (Binary64.fraction m e).2) (sign : negative = true → m = 0) :
    ∃ n : Nat, (binary (.finite negative m e)).milliseconds = .ok n ∧ n < 1000 ∧
      n * (Binary64.fraction m e).2 < 1000 * (Binary64.fraction m e).1 + (Binary64.fraction m e).2 ∧
      1000 * (Binary64.fraction m e).1 < (n + 1) * (Binary64.fraction m e).2 := by
  have apart := Binary64.fraction_coarse_or_small (e := e) mantissa
  have zero : negative = true → (Binary64.fraction m e).1 = 0 := fun minus =>
    sign minus ▸ Binary64.fraction_zero e
  generalize fraction : Binary64.fraction m e = f at less apart zero
  obtain ⟨num, den⟩ := f
  dsimp only at less apart zero ⊢
  obtain ⟨k, m', e', many, rounded, whole⟩ :=
    Binary64.exists_ofRatio_of_lt negative (by decide) (by omega : num * 1000 < 2 ^ 10 * den)
  have pos : 0 < den := Nat.zero_lt_of_lt less
  obtain ⟨above, below⟩ := @whole_roundEven_bounds (num * 1000) den k pos
  refine ⟨roundEven (num * 1000 * 2 ^ k) den / 2 ^ k, ?_, whole_roundEven_lt many less apart,
    by omega, by omega⟩
  rw [milliseconds, Binary64.scale, fraction, rounded]
  dsimp only
  rw [whole]
  cases minus : negative with
  | false => rfl
  | true =>
    have nothing : roundEven (num * 1000 * 2 ^ k) den / 2 ^ k = 0 := by
      simp [zero minus, roundEven]
    rw [nothing]
    rfl

theorem clock_of_milliseconds {n : Nat} (short : s.belowOne = true) (spans : s.milliseconds = .ok n)
    (small : n < 1000) : s.clock = .ok (ClockReading.milliseconds n).text := by
  have few : n < 10 ^ digitLimit :=
    calc n < 10 ^ 3 := small
      _ ≤ 10 ^ digitLimit := Nat.pow_le_pow_right (by decide) (by decide)
  rw [clock, if_pos short, spans]
  exact bind_eq_ok_iff.mpr ⟨_, rfl, bind_eq_ok_iff.mpr
    ⟨_, (wholeText_natCast n).trans (if_pos few), rfl⟩⟩

/-- A span that is not negative is a fraction, and less than a second if this is less than one. Its
milliseconds are then those of the fraction, up to less than one, and below a thousand. -/
theorem Lasts.exists_fraction (lasts : s.Lasts q) (nonneg : 0 ≤ q) :
    ∃ num den : Nat, 0 < den ∧ q = num / den ∧ s.ratio = .ok (num, den) ∧
      s.belowOne = decide (num < den) ∧
      (num < den → ∃ n : Nat, s.milliseconds = .ok n ∧ n < 1000 ∧
        n * den < 1000 * num + den ∧ 1000 * num < (n + 1) * den) := by
  cases lasts with
  | whole n =>
    have nonneg' : 0 ≤ n := by exact_mod_cast nonneg
    obtain ⟨n, rfl⟩ := Int.eq_ofNat_of_zero_le nonneg'
    refine ⟨n, 1, Nat.one_pos, by simp, rfl, by simp [belowOne], fun less => ?_⟩
    obtain rfl : n = 0 := by omega
    exact ⟨0, rfl, by decide, by decide, by decide⟩
  | @binary negative m e mantissa exponent =>
    obtain ⟨pos, value⟩ := Binary64.fraction_eq m e
    have sign : negative = true → m = 0 := by
      intro minus
      rw [minus, if_pos rfl, neg_one_mul, neg_nonneg] at nonneg
      have power : (0 : ℚ) < 2 ^ e := zpow_pos two_pos e
      exact Nat.cast_eq_zero.mp
        (le_antisymm (nonpos_of_mul_nonpos_left nonneg power) (Nat.cast_nonneg m))
    refine ⟨(Binary64.fraction m e).1, (Binary64.fraction m e).2, pos, ?_, rfl, ?_,
      fun less => exists_milliseconds_of_lt mantissa less sign⟩
    · rw [value]
      cases negative with
      | false => simp
      | true => simp [sign rfl]
    · cases negative with
      | false => simp [belowOne, Binary64.ltNat]
      | true => simp [belowOne, Binary64.ltNat, sign rfl]

/-- The minutes of a fraction can be written if it is not too great. -/
theorem minutes_lt_iff (pos : 0 < den) :
    num / den / 60 < 10 ^ digitLimit ↔ (num / den : ℚ) < 60 * 10 ^ digitLimit := by
  have pos' : (0 : ℚ) < den := by exact_mod_cast pos
  rw [div_lt_iff₀ pos', Nat.div_lt_iff_lt_mul (by decide), Nat.div_lt_iff_lt_mul pos,
    Nat.mul_comm (10 ^ digitLimit)]
  exact_mod_cast Iff.rfl

theorem Lasts.exists_clock (lasts : s.Lasts q) (nonneg : 0 ≤ q) (few : q < 60 * 10 ^ digitLimit) :
    ∃ text, s.clock = .ok text ∧ TellsTime q text := by
  obtain ⟨num, den, pos, rfl, ratio, below, short⟩ := lasts.exists_fraction nonneg
  by_cases less : num < den
  · obtain ⟨n, spans, small, above, under⟩ := short less
    exact ⟨_, clock_of_milliseconds (below.trans (decide_eq_true less)) spans small,
      ClockReading.tellsTime _ pos above under (by rwa [if_neg (by omega)])⟩
  · rw [clock_of_not_belowOne (below.trans (decide_eq_false less)) ratio,
      if_pos ((minutes_lt_iff pos).mpr few)]
    exact ⟨_, rfl, tellsTime_clockText pos⟩

theorem Lasts.clock_eq_error (lasts : s.Lasts q) (many : 60 * 10 ^ digitLimit ≤ q) :
    s.clock = .error .long := by
  have nonneg : 0 ≤ q := le_trans (by positivity) many
  obtain ⟨num, den, pos, rfl, ratio, below, -⟩ := lasts.exists_fraction nonneg
  have long : ¬ num / den / 60 < 10 ^ digitLimit := mt (minutes_lt_iff pos).mp (not_lt.mpr many)
  have most : ¬ num < den := by
    intro less
    rw [Nat.div_eq_of_lt less, Nat.zero_div] at long
    exact long (Nat.pow_pos (by decide))
  rw [clock_of_not_belowOne (below.trans (decide_eq_false most)) ratio, if_neg long]

/-- The text of a time that is not negative tells this time. A clock tells a span of this time too, unless
its minutes have too many digits to be written. -/
theorem clock_tells_time {q : ℚ} (nonneg : 0 ≤ q) :
    TellsTime q (String.ofList (clockText q.num.toNat q.den)) ∧
      ∀ s : Seconds, s.Lasts q →
        (q < 60 * 10 ^ digitLimit → ∃ text, s.clock = .ok text ∧ TellsTime q text) ∧
          (60 * 10 ^ digitLimit ≤ q → s.clock = .error .long) := by
  refine ⟨?_, fun s lasts => ⟨lasts.exists_clock nonneg, lasts.clock_eq_error⟩⟩
  have tells := @tellsTime_clockText q.num.toNat q.den q.den_pos
  have whole : (q.num.toNat : ℚ) = q.num := by
    exact_mod_cast Int.toNat_of_nonneg (Rat.num_nonneg.mpr nonneg)
  rwa [whole, Rat.num_div_den] at tells

/-- A half hundredth goes to the even one. The number next to 0.29 lies below it, but a thousand times
this number is rounded to 290. A whole number may have too many digits. -/
theorem clock_tells_time_rounded :
    (0 ≤ (17 / 8 : ℚ) ∧ TellsTime (17 / 8) "2.12s") ∧
      (let s : Seconds := .binary (.finite false 5224175567749775 (-54))
        let q : ℚ := 5224175567749775 / 2 ^ 54
        s.Lasts q ∧ 0 ≤ q ∧ 1000 * q < 290 ∧ q < 60 * 10 ^ digitLimit ∧ s.clock = .ok "290ms" ∧
          TellsTime q "290ms") ∧
      (whole (60 * 10 ^ digitLimit)).clock = .error .long := by
  have power : (1 : ℚ) ≤ 10 ^ digitLimit := one_le_pow₀ (by norm_num)
  refine ⟨⟨by norm_num, ?_⟩, ?_, ?_⟩
  · have text : String.ofList (clockText (17 / 8 : ℚ).num.toNat (17 / 8 : ℚ).den) = "2.12s" := by
      decide +kernel
    exact text ▸ (clock_tells_time (by norm_num)).1
  · intro s q
    have value : q = (if false then -1 else 1) * ((5224175567749775 : Nat) * 2 ^ (-54 : Int)) := by
      norm_num [q]
    have lasts : s.Lasts q := value ▸ .binary false (by decide) (by decide)
    have nonneg : 0 ≤ q := by norm_num [q]
    have less : q < 1 := by norm_num [q]
    have few : q < 60 * 10 ^ digitLimit := by linarith
    have shown : s.clock = .ok "290ms" := toOption_eq_some_iff.mp (by decide +kernel)
    obtain ⟨text, told, tells⟩ := ((clock_tells_time nonneg).2 s lasts).1 few
    rw [shown] at told
    obtain rfl : "290ms" = text := Except.ok.inj told
    exact ⟨lasts, nonneg, by norm_num [q], few, shown, tells⟩
  · have many : (60 * 10 ^ digitLimit : ℚ) ≤ ((60 * 10 ^ digitLimit : Int) : ℚ) :=
      le_of_eq (by push_cast; rfl)
    exact ((clock_tells_time (le_trans (by positivity) many)).2 _ (.whole _)).2 many

/-- 59.999 seconds, exactly or as the format has them, are shown as sixty seconds, which is no reading
of less than a minute. -/
theorem clock_shows_sixty :
    let s : Seconds := .binary (.finite false 8444108563831325 (-47))
    (∃ q, s.Lasts q ∧ 0 ≤ q ∧ q < 60) ∧ s.clock = .ok "60.00s" ∧
      String.ofList (clockText 59999 1000) = "60.00s" ∧
      ¬ ∃ r : ClockReading, r.text = "60.00s" ∧ r.InRange := by
  intro s
  refine ⟨⟨_, .binary false (by decide) (by decide), by norm_num, by norm_num⟩,
    toOption_eq_some_iff.mp (by decide +kernel), by decide +kernel, ?_⟩
  rintro ⟨r, spelled, range⟩
  have sixty : (ClockReading.seconds 60 0 0).text = "60.00s" := by decide
  obtain rfl := ClockReading.text_injective (spelled.trans sixty.symm)
  exact absurd range.2 (by decide)

/-- A span that a clock shows: a finite number of the format that is not negative. -/
def IsElapsed : Seconds → Prop
  | binary (.finite false m e) => m < 2 ^ 53 ∧ e ≤ Binary64.maxExponent
  | _ => False

/-- Such a span is a rational number, of fewer digits than are written. -/
theorem IsElapsed.exists_lasts (elapsed : s.IsElapsed) :
    ∃ q, s.Lasts q ∧ 0 ≤ q ∧ q < 60 * 10 ^ digitLimit := by
  obtain _ | ⟨_ | _, m, e⟩ | _ | _ := s
  case binary.finite.false =>
    obtain ⟨mantissa, exponent⟩ := elapsed
    have positive : (0 : ℚ) < 2 ^ e := zpow_pos two_pos e
    refine ⟨_, .binary false mantissa exponent, ?_, ?_⟩
    · rw [if_neg Bool.false_ne_true, one_mul]
      exact mul_nonneg (Nat.cast_nonneg m) positive.le
    · have size : (m : ℚ) ≤ 2 ^ 53 := by exact_mod_cast mantissa.le
      have power : (2 : ℚ) ^ e ≤ 2 ^ 971 := by
        rw [← zpow_natCast]
        exact zpow_le_zpow_right₀ one_le_two exponent
      rw [if_neg Bool.false_ne_true, one_mul]
      calc (m : ℚ) * 2 ^ e ≤ 2 ^ 53 * 2 ^ 971 := mul_le_mul size power positive.le (by positivity)
        _ = 2 ^ (53 + 971) := (pow_add _ _ _).symm
        _ ≤ 2 ^ digitLimit := pow_le_pow_right₀ one_le_two (by decide)
        _ ≤ 10 ^ digitLimit := pow_le_pow_left₀ two_pos.le (by norm_num) _
        _ < 60 * 10 ^ digitLimit := lt_mul_of_one_lt_left (by positivity) (by norm_num)
  all_goals cases elapsed

/-- A span that a clock shows has a text. -/
theorem exists_clock (elapsed : s.IsElapsed) : ∃ text, s.clock = .ok text := by
  obtain ⟨q, lasts, nonneg, few⟩ := elapsed.exists_lasts
  obtain ⟨text, told, -⟩ := lasts.exists_clock nonneg few
  exact ⟨text, told⟩

/-- A binary span whose whole part is below a power of two. -/
def IsNear (k : Nat) (s : Seconds) : Prop :=
  ∃ negative m e, s = binary (.finite negative m e) ∧
    (Binary64.fraction m e).1 / (Binary64.fraction m e).2 < 2 ^ k

theorem isNear_ofRatio {k : Nat} (negative : Bool) (places : k ≤ 51) (pos : 0 < den)
    (below : num < 2 ^ k * den) : (binary (.ofRatio negative num den)).IsNear (k + 1) := by
  obtain ⟨j, m, e, -, rounded, whole⟩ := Binary64.exists_ofRatio_of_lt negative places below
  refine ⟨negative, m, e, congrArg binary rounded, ?_⟩
  obtain ⟨above, -⟩ := @whole_roundEven_bounds num den j pos
  rw [whole]
  generalize roundEven (num * 2 ^ j) den / 2 ^ j = n at above ⊢
  have most : n < 2 ^ k + 1 := by
    refine Nat.lt_of_mul_lt_mul_right (a := den) ?_
    rw [Nat.add_mul, Nat.one_mul]
    omega
  have room : 0 < 2 ^ k := Nat.two_pow_pos k
  omega

theorem exists_wholeText {n : Int} (few : n.natAbs < 10 ^ digitLimit) :
    ∃ text, wholeText n = .ok text := by
  have digits : ¬ digitLimit < (Nat.toDigits 10 n.natAbs).length := by
    rwa [Nat.not_lt, Nat.length_toDigits_le_iff (by decide) (by decide)]
  exact ⟨_, if_neg digits⟩

/-- A span that is not too long has a text, also where it is below zero. -/
theorem IsNear.exists_clock {k : Nat} (near : s.IsNear k) (places : k ≤ 41) :
    ∃ text, s.clock = .ok text := by
  obtain ⟨negative, m, e, rfl, whole⟩ := near
  have pos := (Binary64.fraction_eq m e).1
  have few {n : Nat} (below : n < 2 ^ 52) : n < 10 ^ digitLimit :=
    calc n < 2 ^ 52 := below
      _ ≤ 10 ^ 52 := Nat.pow_le_pow_left (by decide) 52
      _ ≤ 10 ^ digitLimit := Nat.pow_le_pow_right (by decide) (by decide)
  have room : 2 ^ k ≤ 2 ^ 41 := Nat.pow_le_pow_right Nat.two_pos places
  cases short : (binary (.finite negative m e)).belowOne with
  | true =>
    have scaled : (Binary64.fraction m e).1 * 1000 < 2 ^ 51 * (Binary64.fraction m e).2 := by
      have below := (Nat.div_lt_iff_lt_mul pos).mp whole
      have far : 2 ^ k * (Binary64.fraction m e).2 ≤ 2 ^ 41 * (Binary64.fraction m e).2 :=
        Nat.mul_le_mul_right _ room
      omega
    obtain ⟨minus, m', e', rounded, whole'⟩ := isNear_ofRatio negative (Nat.le_refl 51) pos scaled
    obtain ⟨n, spans, small⟩ : ∃ n, (binary (.finite negative m e)).milliseconds = .ok n ∧
        n.natAbs < 2 ^ 52 := by
      rw [milliseconds, Binary64.scale, Seconds.binary.inj rounded]
      refine ⟨_, rfl, ?_⟩
      cases minus with
      | false => exact whole'
      | true => exact (Int.natAbs_neg _).trans_lt whole'
    obtain ⟨text, told⟩ := exists_wholeText (few small)
    rw [clock, if_pos short, spans]
    exact ⟨_, bind_eq_ok_iff.mpr ⟨_, rfl, bind_eq_ok_iff.mpr ⟨_, told, rfl⟩⟩⟩
  | false =>
    have minutes : (Binary64.fraction m e).1 / (Binary64.fraction m e).2 / 60 < 2 ^ 52 :=
      Nat.lt_of_le_of_lt (Nat.div_le_self _ _) (by omega)
    exact ⟨_, (clock_of_not_belowOne short rfl).trans (if_pos (few minutes))⟩

end Seconds

/-- The span between two readings of a clock has a text. -/
theorem Timing.exists_clock (t : Timing) : ∃ text, t.elapsed.clock = .ok text := by
  obtain ⟨⟨s, m, e, near⟩, ⟨s', m', e', near'⟩⟩ := t
  refine Seconds.IsNear.exists_clock (k := 36) ?_ (by decide)
  have pos := (Binary64.fraction_eq m e).1
  have pos' := (Binary64.fraction_eq m' e').1
  unfold elapsed TimeStamp.value Binary64.negate Binary64.add
  dsimp only
  generalize Binary64.fraction m e = f, Binary64.fraction m' e' = f' at near near' pos pos' ⊢
  obtain ⟨p, q⟩ := f
  obtain ⟨p', q'⟩ := f'
  refine Seconds.isNear_ofRatio _ (by decide) (Nat.mul_pos pos' pos) ?_
  have left : p' * q < twoTo 34 * (q' * q) := by
    rw [← Nat.mul_assoc]
    exact Nat.mul_lt_mul_of_pos_right near' pos
  have right : p * q' < twoTo 34 * (q' * q) := by
    rw [Nat.mul_comm q', ← Nat.mul_assoc]
    exact Nat.mul_lt_mul_of_pos_right near pos'
  rw [twoTo_eq] at left right
  dsimp only
  cases s <;> cases s' <;> simp only [Bool.not_true, Bool.not_false, if_true, if_false,
    Bool.false_eq_true] <;> omega

end TexBuild
