import TexBuild.Text.Charset
import TexBuild.Text.Charset.Gb2312
import TexBuild.Text.Charset.Remainder
import TexBuild.Text.Encoding.Basic

namespace TexBuild.Encoding.Simplified

/-- Two octets with their highest bit. -/
def euc : Encoding :=
  ofLeads "gb2312"
    ["chinese", "csiso58gb231280", "euc_cn", "euccn", "eucgb2312_cn", "gb2312_1980", "gb2312_80", "iso_ir_58",
      "x_mac_simp_chinese"]
    (twoOctets (Charset.high? Charset.gb2312))

/-- The characters of the first block of Chinese ones that the set does not hold. -/
def otherCharacters : Array Char :=
  Charset.absent 0x4E00 20902 Charset.gb2312

/-- The characters of the compatible block that the larger set holds. -/
def compatible : Array Char :=
  "\uf92c\uf979\uf995\uf9e7\uf9f1\ufa0c\ufa0d﨎﨏﨑﨓﨔\ufa18﨟\ufa20﨡﨣﨤﨧﨨﨩".toList.toArray

/-- The place of a second octet among the 96 before the rows of the set. -/
def lowPlace? (c : Nat) : Option Nat :=
  if 0x40 ≤ c ∧ c ≤ 0x7E then some (c - 0x40)
  else if 0x80 ≤ c ∧ c ≤ 0xA0 then some (c - 0x41)
  else none

/-- Signs in the places before two rows of the set. -/
def lowSigns : List (Nat × String) :=
  [(0xA8, "ˊˋ˙–―‥‵℅℉↖↗↘↙∕∟∣≒≦≧⊿═║╒╓╔╕╖╗╘╙╚╛╜╝╞╟╠╡╢╣╤╥╦╧╨╩╪╫╬╭╮╯╰╱╲╳▁▂▃▄▅▆▇█▉▊▋▌▍▎▏▓▔▕▼▽◢◣◤◥☉⊕〒〝〞"),
    (0xA9, "〡〢〣〤〥〦〧〨〩㊣㎎㎏㎜㎝㎞㎡㏄㏎㏑㏒㏕︰￢￤ ℡㈱ ‐   ー゛゜ヽヾ〆ゝゞ﹉﹊﹋﹌﹍﹎﹏﹐﹑﹒﹔﹕﹖﹗﹙﹚﹛﹜﹝﹞﹟﹠﹡﹢﹣﹤﹥﹦﹨﹩﹪﹫             〇")]

/-- Signs in places of the set that are empty or that are read in another way. -/
def highSigns : List (Nat × String) :=
  [(0xA1, "   ·     —"),
    (0xA2, "ⅰⅱⅲⅳⅴⅵⅶⅷⅸⅹ"),
    (0xA6, "                                                               ︵︶︹︺︿﹀︽︾﹁﹂﹃﹄  ︻︼︷︸︱ ︳︴"),
    (0xA8, "                          ɑ ńň ɡ")]

/-- The character of a row that is found by its first octet. -/
def sign? (signs : List (Nat × String)) (b place : Nat) : Option Char := do
  let row ← signs.lookup b
  Charset.at? #[row] 0 place

/-- The characters of the places before the rows of the set. The characters of the
block stand in order in whole rows of 190 places, then in 96 places of each row. -/
def extendedLow? (b place : Nat) : Option Char :=
  if b < 0xAA then sign? lowSigns b place
  else
    let n := 190 * 32 + 96 * (b - 0xAA) + place
    if n < otherCharacters.size then otherCharacters[n]? else compatible[n - otherCharacters.size]?

/-- The larger set. -/
def extended? (b c : Nat) : Option Char :=
  if 0xA1 ≤ c then
    if c = 0xFF ∨ b < 0x81 then none
    else if b < 0xA1 then otherCharacters[190 * (b - 0x81) + (c - 0x41)]?
    else (sign? highSigns b (c - 0xA1)).or (Charset.high? Charset.gb2312 b c)
  else do
    let place ← lowPlace? c
    if b < 0x81 then none
    else if b < 0xA1 then otherCharacters[190 * (b - 0x81) + place]?
    else extendedLow? b place

/-- Two octets of the larger set. -/
def extended : Encoding :=
  ofLeads "gbk" ["936", "cp936", "ms936"] (twoOctets extended?)

/-- The first private character. -/
def firstPrivate : Nat := 0xE000

/-- A private character in the places that are left to users: two areas of whole rows of
the set, then one of the places before rows. -/
def userPlace? (b c : Nat) : Option Char :=
  if c = 0xFF then none
  else if 0xAA ≤ b ∧ b ≤ 0xAF ∧ 0xA1 ≤ c then some (Char.ofNat (firstPrivate + 94 * (b - 0xAA) + (c - 0xA1)))
  else if 0xF8 ≤ b ∧ b ≤ 0xFE ∧ 0xA1 ≤ c then
    some (Char.ofNat (firstPrivate + 94 * 6 + 94 * (b - 0xF8) + (c - 0xA1)))
  else if 0xA1 ≤ b ∧ b ≤ 0xA7 then
    (lowPlace? c).map fun place => Char.ofNat (firstPrivate + 94 * 13 + 96 * (b - 0xA1) + place)
  else none

/-- The other places without a character, in runs: the first octet, the place among the
190 of its row, and how many there are. -/
def freeRuns : List (Nat × Nat × Nat) :=
  [(0xA2, 106, 6), (0xA2, 162, 2), (0xA2, 174, 2), (0xA2, 188, 2), (0xA4, 179, 11), (0xA5, 182, 8),
    (0xA6, 120, 8), (0xA6, 152, 7), (0xA6, 171, 2), (0xA6, 178, 1), (0xA6, 181, 9), (0xA7, 129, 15),
    (0xA7, 177, 13), (0xA8, 85, 11), (0xA8, 123, 1), (0xA8, 126, 1), (0xA8, 128, 4), (0xA8, 169, 21),
    (0xA9, 24, 1), (0xA9, 27, 1), (0xA9, 29, 3), (0xA9, 72, 13), (0xA9, 86, 13), (0xA9, 175, 15),
    (0xD7, 185, 5), (0xFE, 16, 80)]

/-- The count of a free place in runs that follow on each other. -/
def freeCount? (b place : Nat) : List (Nat × Nat × Nat) → Option Nat
  | [] => none
  | (lead, first, size) :: runs =>
    if b = lead ∧ first ≤ place ∧ place < first + size then some (place - first)
    else (freeCount? b place runs).map (· + size)

/-- The characters that took the place of private ones, by the count of the free
place. -/
def taken : List (Nat × String) :=
  [(6, "€"), (98, "ǹ"), (129, "〾⿰⿱⿲⿳⿴⿵⿶⿷⿸⿹⿺⿻"),
    (175, "⺁   ⺄㑳㑇⺈⺋ 㖞㘚㘎⺌⺗㥮㤘 㧏㧟㩳㧐  㭎㱮㳠⺧  ⺪䁖䅟⺮䌷⺳⺶⺷ 䎱䎬⺻䏝䓖䙡䙌"),
    (222, "䜣䜩䝼䞍⻊䥇䥺䥽䦂䦃䦅䦆䦟䦛䦷䦶  䲣䲟䲠䲡䱷䲢䴓䴔䴕䴖䴗䴘䴙䶮")]

/-- The character of a free place: one that took it, or the private one of its
count. -/
def freePlace? (b c : Nat) : Option Char := do
  let place ← if 0x40 ≤ c ∧ c ≤ 0x7E then some (c - 0x40)
    else if 0x80 ≤ c ∧ c ≤ 0xFE then some (c - 0x41)
    else none
  let n ← freeCount? b place freeRuns
  let later := taken.findSome? fun t => if t.1 ≤ n then Charset.at? #[t.2] 0 (n - t.1) else none
  return later.getD (Char.ofNat (0xE766 + n))

/-- The character of four octets, all below their greatest: the rest of the first plane,
or one of the other planes. -/
def fourOctets? (b c d e : Nat) : Option Char :=
  if b < 0x81 ∨ 0xFE < b ∨ d < 0x81 ∨ 0xFE < d ∨ e < 0x30 ∨ 0x39 < e then none
  else
    let n := (((b - 0x81) * 10 + (c - 0x30)) * 126 + (d - 0x81)) * 10 + (e - 0x30)
    if b < 0x85 then Charset.remainder? n
    else if 189000 ≤ n ∧ n - 189000 < 0x100000 then some (Char.ofNat (0x10000 + (n - 189000)))
    else none

/-- Every character in one, two or four octets. A digit in the second place tells that
there are four. -/
def full : Encoding :=
  ofLeads "gb18030" ["gb18030_2000"] fun b rest =>
    match rest with
    | [] => .short
    | c :: more =>
      if 0x30 ≤ c ∧ c ≤ 0x39 then
        match more with
        | d :: e :: _ => .ofOption () (fourOctets? b.toNat c.toNat d.toNat e.toNat) 3
        | _ => .short
      else
        .ofOption () (((extended? b.toNat c.toNat).or (userPlace? b.toNat c.toNat)).or
          (freePlace? b.toNat c.toNat)) 1

/-- Text in seven bits. A tilde and a brace shift into the set and back, two tildes are
one, and a tilde before a line end takes it away. -/
def readShifting (inSet : Bool) (b : UInt8) (rest : List UInt8) : Piece Bool :=
  if b = 0x7E then
    match rest with
    | [] => .short
    | c :: _ =>
      if c = 0x7E ∧ !inSet then .one inSet '~' 1
      else if c = 0x7B ∧ !inSet then .text [] 1 true
      else if c = 0x0A ∧ !inSet then .text [] 1 inSet
      else if c = 0x7D ∧ inSet then .text [] 1 false
      else .misfit 0
  else if 0x80 ≤ b then .misfit 0
  else if inSet then
    match rest with
    | [] => .short
    | c :: _ => .ofOption inSet (Charset.low? Charset.gb2312 b.toNat c.toNat) 1
  else .one inSet (Char.ofNat b.toNat) 0

/-- Seven bits with shifts into the set. -/
def shifting : Encoding :=
  ofPieces "hz" ["hz_gb", "hz_gb_2312", "hzgb"] false readShifting

/-- The encodings of simplified characters. -/
def encodings : List Encoding :=
  [euc, extended, full, shifting]

end TexBuild.Encoding.Simplified
