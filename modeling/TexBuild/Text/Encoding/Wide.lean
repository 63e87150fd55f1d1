import TexBuild.Text.Encoding.Basic

namespace TexBuild.Encoding.Wide

/-- The number that the first octets denote. -/
def unit (bigEndian : Bool) (bs : List UInt8) : Nat :=
  (if bigEndian then bs else bs.reverse).foldl (fun n b => 256 * n + b.toNat) 0

/-- The text of units of two octets. A unit that needs another one and has none is
replaced; at the very end it takes the rest with it. -/
def readPair (bigEndian : Bool) (a : UInt8) : List UInt8 → Piece Unit
  | [] => .short
  | b :: rest =>
    let first := unit bigEndian [a, b]
    if 0xD800 ≤ first ∧ first < 0xDC00 then
      match rest with
      | c :: d :: _ =>
        let second := unit bigEndian [c, d]
        if 0xDC00 ≤ second ∧ second < 0xE000 then
          .one () (charOf (0x10000 + (first - 0xD800) * 0x400 + (second - 0xDC00))) 3
        else .misfit 1
      | _ => .short
    else .one () (charOf first) 1

/-- The text of units of four octets. -/
def readQuad (bigEndian : Bool) (a : UInt8) : List UInt8 → Piece Unit
  | b :: c :: d :: _ => .one () (charOf (unit bigEndian [a, b, c, d])) 3
  | _ => .short

/-- The text of wide units in a known order. -/
def decode (octets : Nat) (bigEndian : Bool) (bs : List UInt8) : List Char :=
  let read := if octets = 2 then readPair bigEndian else readQuad bigEndian
  decodePieces (fun _ => read) () bs

/-- The mark that tells the order of octets. -/
def orderMark (octets : Nat) (bigEndian : Bool) : List UInt8 :=
  match octets, bigEndian with
  | 2, false => [0xFF, 0xFE]
  | 2, true => [0xFE, 0xFF]
  | _, false => [0xFF, 0xFE, 0, 0]
  | _, true => [0, 0, 0xFE, 0xFF]

/-- The text of wide units after a mark of their order. -/
def decodeMarked (octets : Nat) (bs : List UInt8) : Except DecodeError (List Char) :=
  if (orderMark octets false).isPrefixOf bs then .ok (decode octets false (bs.drop octets))
  else if (orderMark octets true).isPrefixOf bs then .ok (decode octets true (bs.drop octets))
  else if bs.length < octets then .ok (decode octets false bs)
  else .error (.noByteOrderMark (8 * octets))

/-- Units in a fixed order. -/
def ordered (name : String) (aliases : List String) (octets : Nat) (bigEndian : Bool) : Encoding :=
  ⟨name, aliases, fun bs => .ok (decode octets bigEndian bs)⟩

/-- The encodings with wide units. -/
def encodings : List Encoding :=
  [⟨"utf_16", ["u16", "utf16"], decodeMarked 2⟩,
    ordered "utf_16_be" ["unicodebigunmarked", "utf_16be"] 2 true,
    ordered "utf_16_le" ["unicodelittleunmarked", "utf_16le"] 2 false,
    ⟨"utf_32", ["u32", "utf32"], decodeMarked 4⟩,
    ordered "utf_32_be" ["utf_32be"] 4 true,
    ordered "utf_32_le" ["utf_32le"] 4 false]

end TexBuild.Encoding.Wide
