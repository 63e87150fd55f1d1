import TexBuild.Text.Utf8

namespace TexBuild

/-- A set of characters with an octet for each, and the names of the set in plain
form. The rows hold the characters of the last octets in order; the octets before them
stand for the characters of their own numbers. -/
structure Alphabet where
  name : String
  aliases : List String
  rows : List String

namespace Alphabet

/-- The characters of the last octets. -/
def letters (a : Alphabet) : Array Char :=
  (a.rows.flatMap String.toList).toArray

/-- The text of octets. -/
def decode (a : Alphabet) (bs : List UInt8) : List Char :=
  let letters := a.letters
  let first := 256 - letters.size
  bs.map fun b =>
    if b.toNat < first then Char.ofNat b.toNat else letters.getD (b.toNat - first) Utf8.replacement

/-- Every octet stands for the character of its own number. -/
def latin1 : Alphabet where
  name := "latin_1"
  aliases := ["8859", "cp819", "csisolatin1", "ibm819", "iso8859", "iso8859_1", "iso_8859_1",
    "iso_8859_1_1987", "iso_ir_100", "l1", "latin", "latin1"]
  rows := []

/-- The characters of their own numbers under a second name. -/
def identity : Alphabet where
  name := "charmap"
  aliases := []
  rows := []

/-- The characters below 128, and none for the other octets. -/
def ascii : Alphabet where
  name := "ascii"
  aliases := ["646", "ansi_x3.4_1968", "ansi_x3.4_1986", "ansi_x3_4_1968", "cp367", "csascii", "ibm367",
    "iso646_us", "iso_646.irv_1991", "iso_ir_6", "us", "us_ascii"]
  rows := List.replicate 4 (String.ofList (List.replicate 32 Utf8.replacement))

end Alphabet

end TexBuild
