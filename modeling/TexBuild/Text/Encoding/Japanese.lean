import TexBuild.Text.Charset
import TexBuild.Text.Charset.Jisx0208
import TexBuild.Text.Charset.Jisx0212
import TexBuild.Text.Charset.Jisx0213
import TexBuild.Text.Encoding.Basic

namespace TexBuild.Encoding.Japanese

/-- The narrow kana of an octet, if its highest bit is set. -/
def narrowKana? (b : Nat) : Option Char :=
  if 0xA1 ≤ b ∧ b ≤ 0xDF then some (Char.ofNat (0xFF61 + (b - 0xA1))) else none

/-- The octet before narrow kana, and the one before the supplementary set. -/
def kanaLead : UInt8 := 0x8E

def supplementLead : UInt8 := 0x8F

/-- Pieces of two octets, or of two or three with a lead of their own. -/
def readUnix (main supplement : Nat → Nat → Piece Unit) (b : UInt8) (rest : List UInt8) : Piece Unit :=
  match rest with
  | [] => .short
  | c :: more =>
    if b = kanaLead then .ofOption () (narrowKana? c.toNat) 1
    else if b = supplementLead then
      match more with
      | [] => .short
      | d :: _ => supplement c.toNat d.toNat
    else main b.toNat c.toNat

/-- Two octets with their highest bit, and the supplementary set after a lead. -/
def unix : Encoding :=
  ofLeads "euc_jp" ["eucjp", "u_jis", "ujis"] (readUnix
    (fun b c => .ofOption () (Charset.high? Charset.jisx0208 b c) 1)
    (fun c d => .ofOption () (Charset.high? Charset.jisx0212 c d) 2))

/-- The row and the place that two octets stand for when each first one covers two
rows. -/
def shiftedPlace? (b c : Nat) : Option (Nat × Nat) :=
  let half? : Option Nat :=
    if 0x40 ≤ c ∧ c ≤ 0x7E then some (c - 0x40)
    else if 0x80 ≤ c ∧ c ≤ 0xFC then some (c - 0x41)
    else none
  half?.bind fun half =>
    if 0x81 ≤ b ∧ b ≤ 0x9F then some (2 * (b - 0x81) + half / 94, half % 94)
    else if 0xE0 ≤ b ∧ b ≤ 0xFC then some (2 * (b - 0xC1) + half / 94, half % 94)
    else none

/-- Narrow kana in one octet, or two octets that stand for a place. -/
def readShifted (char? : Nat → Nat → Option Char) (b : UInt8) (rest : List UInt8) : Piece Unit :=
  match narrowKana? b.toNat with
  | some k => .one () k 0
  | none =>
    match rest with
    | [] => .short
    | c :: _ =>
      .ofOption () ((shiftedPlace? b.toNat c.toNat).bind fun place => char? place.1 place.2) 1

/-- Narrow kana in one octet, and the set in two. -/
def shifted : Encoding :=
  ofLeads "shift_jis" ["csshiftjis", "s_jis", "shiftjis", "sjis", "x_mac_japanese"]
    (readShifted (Charset.at? Charset.jisx0208))

/-- Signs and characters that window systems add to the set or read in another way, by
row. -/
def windowsRows : List (Nat × String) :=
  [(0, "                                ～∥                          －                   ￠￡"),
    (1, "                                           ￢"),
    (12, "①②③④⑤⑥⑦⑧⑨⑩⑪⑫⑬⑭⑮⑯⑰⑱⑲⑳ⅠⅡⅢⅣⅤⅥⅦⅧⅨⅩ ㍉㌔㌢㍍㌘㌧㌃㌶㍑㍗㌍㌦㌣㌫㍊㌻㎜㎝㎞㎎㎏㏄㎡        ㍻〝〟№㏍℡㊤㊥㊦㊧㊨㈱㈲㈹㍾㍽㍼≒≡∫∮∑√⊥∠∟⊿∵∩∪"),
    (88, "纊褜鍈銈蓜俉炻昱棈鋹曻彅丨仡仼伀伃伹佖侒侊侚侔俍偀倢俿倞偆偰偂傔僴僘兊兤冝冾凬刕劜劦勀勛匀匇匤卲厓厲叝﨎咜咊咩哿喆坙坥垬埈埇﨏\ufa10增墲夋奓奛奝奣妤妺孖寀甯寘寬尞岦岺峵崧嵓﨑嵂嵭嶸嶹巐弡弴彧德"),
    (89, "忞恝悅悊惞惕愠惲愑愷愰憘戓抦揵摠撝擎敎昀昕昻昉昮昞昤晥晗晙\ufa12晳暙暠暲暿曺朎\uf929杦枻桒柀栁桄棏﨓楨﨔榘槢樰橫橆橳橾櫢櫤毖氿汜沆汯泚洄涇浯涖涬淏淸淲淼渹湜渧渼溿澈澵濵瀅瀇瀨炅炫焏焄煜煆煇\ufa15燁燾犱"),
    (90, "犾猤\ufa16獷玽珉珖珣珒琇珵琦琪琩琮瑢璉璟甁畯皂皜皞皛皦\ufa17睆劯砡硎硤硺礰\ufa18\ufa19\ufa1a禔\ufa1b禛竑竧\ufa1c竫箞\ufa1d絈絜綷綠緖繒罇羡\ufa1e茁荢荿菇菶葈蒴蕓蕙蕫﨟薰\ufa20﨡蠇裵訒訷詹誧誾諟\ufa22諶譓譿賰賴贒赶﨣軏﨤\ufa25遧郞\ufa26鄕鄧釚"),
    (91, "釗釞釭釮釤釥鈆鈐鈊鈺鉀鈼鉎鉙鉑鈹鉧銧鉷鉸鋧鋗鋙鋐﨧鋕鋠鋓錥錡鋻﨨錞鋿錝錂鍰鍗鎤鏆鏞鏸鐱鑅鑈閒\uf9dc﨩隝隯霳霻靃靍靏靑靕顗顥\ufa2a\ufa2b餧\ufa2c馞驎髙髜魵魲鮏鮱鮻鰀鵰鵫\ufa2d鸙黑  ⅰⅱⅲⅳⅴⅵⅶⅷⅸⅹ￢￤＇＂"),
    (114, "ⅰⅱⅲⅳⅴⅵⅶⅷⅸⅹⅠⅡⅢⅣⅤⅥⅦⅧⅨⅩ￢￤＇＂㈱№℡∵纊褜鍈銈蓜俉炻昱棈鋹曻彅丨仡仼伀伃伹佖侒侊侚侔俍偀倢俿倞偆偰偂傔僴僘兊兤冝冾凬刕劜劦勀勛匀匇匤卲厓厲叝﨎咜咊咩哿喆坙坥垬埈埇﨏\ufa10增墲"),
    (115, "夋奓奛奝奣妤妺孖寀甯寘寬尞岦岺峵崧嵓﨑嵂嵭嶸嶹巐弡弴彧德忞恝悅悊惞惕愠惲愑愷愰憘戓抦揵摠撝擎敎昀昕昻昉昮昞昤晥晗晙\ufa12晳暙暠暲暿曺朎\uf929杦枻桒柀栁桄棏﨓楨﨔榘槢樰橫橆橳橾櫢櫤毖氿汜沆汯泚洄涇浯"),
    (116, "涖涬淏淸淲淼渹湜渧渼溿澈澵濵瀅瀇瀨炅炫焏焄煜煆煇\ufa15燁燾犱犾猤\ufa16獷玽珉珖珣珒琇珵琦琪琩琮瑢璉璟甁畯皂皜皞皛皦\ufa17睆劯砡硎硤硺礰\ufa18\ufa19\ufa1a禔\ufa1b禛竑竧\ufa1c竫箞\ufa1d絈絜綷綠緖繒罇羡\ufa1e茁荢荿菇菶葈蒴蕓蕙蕫﨟薰"),
    (117, "\ufa20﨡蠇裵訒訷詹誧誾諟\ufa22諶譓譿賰賴贒赶﨣軏﨤\ufa25遧郞\ufa26鄕鄧釚釗釞釭釮釤釥鈆鈐鈊鈺鉀鈼鉎鉙鉑鈹鉧銧鉷鉸鋧鋗鋙鋐﨧鋕鋠鋓錥錡鋻﨨錞鋿錝錂鍰鍗鎤鏆鏞鏸鐱鑅鑈閒\uf9dc﨩隝隯霳霻靃靍靏靑靕顗顥\ufa2a\ufa2b餧\ufa2c馞驎髙"),
    (118, "髜魵魲鮏鮱鮻鰀鵰鵫\ufa2d鸙黑")]

/-- The set of window systems; twenty rows after the others are private. -/
def windows? (row place : Nat) : Option Char :=
  let own? : Option Char := do Charset.at? #[← windowsRows.lookup row] 0 place
  if 94 ≤ row ∧ row < 114 then some (Char.ofNat (0xE000 + 94 * (row - 94) + place))
  else own?.or (Charset.at? Charset.jisx0208 row place)

/-- Octets of window systems that stand alone: one below the kana, one before them and
three after all others. -/
def windowsLone? (b : Nat) : Option Char :=
  if b = 0x80 then some (Char.ofNat 0x80)
  else if b = 0xA0 then some (Char.ofNat 0xF8F0)
  else if 0xFD ≤ b then some (Char.ofNat (0xF8F1 + (b - 0xFD)))
  else none

def windows : Encoding :=
  ofLeads "cp932" ["932", "ms932", "ms_kanji", "mskanji"] fun b rest =>
    match windowsLone? b.toNat with
    | some c => .one () c 0
    | none => readShifted windows? b rest

/-- The editions of the extended set. -/
inductive Edition where
  | first
  | second
deriving DecidableEq

/-- The text of a place in the first plane of the extended set. -/
def extended? (e : Edition) (row place : Nat) : Option (List Char) :=
  if e = .first ∧ Charset.jisx0213Late.contains (row, place) then none
  else
    match Charset.jisx0213Pairs.lookup (row, place) with
    | some s => some s.toList
    | none => ((Charset.at? Charset.jisx0208 row place).or (Charset.at? Charset.jisx0213 row place)).map ([·])

/-- The character of a place in the second plane, one of which had another character in
the first edition. -/
def second? (e : Edition) (row place : Nat) : Option Char :=
  if e = .first ∧ row = 92 ∧ place = 26 then some '鬝' else Charset.at? Charset.jisx0213Second row place

/-- Characters if there are any. -/
def pieceOf {σ : Type} (s : σ) (cs? : Option (List Char)) (more : Nat) : Piece σ :=
  match cs? with
  | some cs => .text cs more s
  | none => .misfit 0

/-- The piece of two octets that stand for a place. Places that were filled last are in
the first edition misfits as a whole. -/
def extendedPiece (e : Edition) (place? : Option (Nat × Nat)) (text? : Nat → Nat → Option (List Char)) :
    Piece Unit :=
  match place? with
  | none => .misfit 0
  | some p =>
    match text? p.1 p.2 with
    | some cs => .text cs 1 ()
    | none => .misfit (if e = .first ∧ Charset.jisx0213Late.contains p then 1 else 0)

/-- A place of two octets with their highest bit. -/
def highPlace? (b c : Nat) : Option (Nat × Nat) :=
  if 0xA1 ≤ b ∧ b ≤ 0xFE ∧ 0xA1 ≤ c ∧ c ≤ 0xFE then some (b - 0xA1, c - 0xA1) else none

/-- The extended set in two octets with their highest bit. After the lead of the
supplement stands the second plane, and then the supplementary set. -/
def extendedUnix (name : String) (aliases : List String) (e : Edition) : Encoding :=
  ofLeads name aliases (readUnix
    (fun b c => extendedPiece e (highPlace? b c) (extended? e))
    (fun c d => .ofOption () ((highPlace? c d).bind fun p =>
      (second? e p.1 p.2).or (Charset.at? Charset.jisx0212 p.1 p.2)) 2))

/-- The rows of the second plane in the order of first octets, each of which covers
two. -/
def secondRows : List Nat :=
  [0, 7, 2, 3, 4, 11, 12, 13, 14, 77] ++ List.range' 78 16

/-- The backslash and the tilde, which have places of their own where two octets below
128 stand for other signs. -/
def narrowSign? (row place : Nat) : Option (List Char) :=
  [((0, 31), ['\\']), ((1, 17), ['~'])].lookup (row, place)

/-- The text of a shifted place: rows beyond the first plane are those of the second. -/
def extendedShifted? (e : Edition) (row place : Nat) : Option (List Char) :=
  if row < 94 then (narrowSign? row place).or (extended? e row place)
  else (secondRows[row - 94]?).bind fun r => (second? e r place).map ([·])

/-- The extended set in one octet or two. Two octets below 128 stand for other signs than
in ASCII. -/
def extendedShifted (name : String) (aliases : List String) (e : Edition) : Encoding :=
  ofPieces name aliases () fun _ b rest =>
    if b = 0x5C then .one () '¥' 0
    else if b = 0x7E then .one () '‾' 0
    else if b.toNat < 0x80 then .one () (Char.ofNat b.toNat) 0
    else
      match narrowKana? b.toNat with
      | some k => .one () k 0
      | none =>
        match rest with
        | [] => .short
        | c :: _ => extendedPiece e (shiftedPlace? b.toNat c.toNat) (extendedShifted? e)

/-- The Japanese encodings without shifts. -/
def encodings : List Encoding :=
  [unix, shifted, windows,
    extendedUnix "euc_jisx0213" ["eucjisx0213"] .first,
    extendedUnix "euc_jis_2004" ["euc_jis2004", "eucjis2004", "jisx0213"] .second,
    extendedShifted "shift_jisx0213" ["s_jisx0213", "shiftjisx0213", "sjisx0213"] .first,
    extendedShifted "shift_jis_2004" ["s_jis_2004", "shiftjis2004", "sjis_2004"] .second]

end TexBuild.Encoding.Japanese
