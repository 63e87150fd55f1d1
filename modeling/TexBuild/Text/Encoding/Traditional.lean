import TexBuild.Text.Charset
import TexBuild.Text.Charset.Big5
import TexBuild.Text.Charset.HongKong
import TexBuild.Text.Encoding.Basic

namespace TexBuild.Encoding.Traditional

/-- The character of two octets in rows whose places come in two ranges, of which
`low` and `high` hold the characters. -/
def at? (first : Nat) (low high : Array String) (b c : Nat) : Option Char :=
  if b < first then none
  else if 0x40 ≤ c ∧ c ≤ 0x7E then Charset.at? low (b - first) (c - 0x40)
  else if 0xA1 ≤ c ∧ c ≤ 0xFE then Charset.at? high (b - first) (c - 0xA1)
  else none

/-- The common set. -/
def common? (b c : Nat) : Option Char :=
  at? 0xA1 Charset.big5Low Charset.big5High b c

def common : Encoding :=
  ofLeads "big5" ["big5_tw", "csbig5", "x_mac_trad_chinese"] (twoOctets common?)

/-- Signs that window systems read in another way. -/
def windowsSigns : List ((Nat × Nat) × Char) :=
  [((0xA1, 0x45), '‧'), ((0xA1, 0x4E), '﹑'), ((0xA1, 0xC2), '¯'), ((0xA1, 0xE3), '～'),
    ((0xA1, 0xF2), '⊕'), ((0xA1, 0xF3), '⊙'), ((0xA2, 0x41), '∕'), ((0xA2, 0x42), '﹨'),
    ((0xA2, 0x44), '￥'), ((0xA2, 0x46), '￠'), ((0xA2, 0x47), '￡'), ((0xA3, 0xE1), '€')]

/-- What window systems have at the end of the set. -/
def windowsEnd : Array String :=
  #["碁銹裏墻恒粧嫺╔╦╗╠╬╣╚╩╝╒╤╕╞╪╡╘╧╛╓╥╖╟╫╢╙╨╜║═╭╮╰╯▓"]

/-- The set of window systems. -/
def windows? (b c : Nat) : Option Char :=
  match windowsSigns.lookup (b, c) with
  | some d => some d
  | none =>
    if b = 0xF9 ∧ 0xD6 ≤ c then Charset.at? windowsEnd 0 (c - 0xD6) else common? b c

def windows : Encoding :=
  ofLeads "cp950" ["950", "ms950"] (twoOctets windows?)

/-- Letters with a mark after them in the set of Hong Kong. -/
def marked : List ((Nat × Nat) × List Char) :=
  [((0x88, 0x62), ['Ê', '\u0304']), ((0x88, 0x64), ['Ê', '\u030c']),
    ((0x88, 0xA3), ['ê', '\u0304']), ((0x88, 0xA5), ['ê', '\u030c'])]

/-- The set of Hong Kong, which has its own characters in three rows of the common
one. -/
def hongKong? (b c : Nat) : Option Char :=
  if 0xC6 ≤ b ∧ b ≤ 0xC8 then
    at? 0xC6 Charset.hongKongInnerLow Charset.hongKongInnerHigh b c
  else
    ((common? b c).or (at? 0x87 Charset.hongKongOuterLow Charset.hongKongOuterHigh b c)).or
      (at? 0xF9 Charset.hongKongEndLow Charset.hongKongEndHigh b c)

def hongKong : Encoding :=
  ofLeads "big5hkscs" ["big5_hkscs", "hkscs"] fun b rest =>
    match rest with
    | [] => .short
    | c :: _ =>
      match marked.lookup (b.toNat, c.toNat) with
      | some cs => .text cs 1 ()
      | none => .ofOption () (hongKong? b.toNat c.toNat) 1

/-- The encodings of traditional characters. -/
def encodings : List Encoding :=
  [common, windows, hongKong]

end TexBuild.Encoding.Traditional
