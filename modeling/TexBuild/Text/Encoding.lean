import TexBuild.Text.Alphabet.CodePage
import TexBuild.Text.Alphabet.Mac
import TexBuild.Text.Alphabet.Mainframe
import TexBuild.Text.Alphabet.Regional
import TexBuild.Text.Alphabet.Windows
import TexBuild.Text.Encoding.Designated
import TexBuild.Text.Encoding.Escaped
import TexBuild.Text.Encoding.Korean
import TexBuild.Text.Encoding.Punycode
import TexBuild.Text.Encoding.Simplified
import TexBuild.Text.Encoding.Traditional
import TexBuild.Text.Encoding.Utf7
import TexBuild.Text.Encoding.Wide
import TexBuild.Text.Lines

namespace TexBuild.Encoding

/-- The text of eight bits, as it stands. -/
def utf8 : Encoding :=
  ⟨"utf_8", ["cp65001", "u8", "utf", "utf8", "utf8_ucs2", "utf8_ucs4"], fun bs => .ok (Utf8.decode bs)⟩

/-- The mark that may stand before text of eight bits. -/
def signature : List UInt8 := [0xEF, 0xBB, 0xBF]

/-- The text of eight bits after a mark. A mark cut short is no text. -/
def signed : Encoding :=
  ⟨"utf_8_sig", [], fun bs =>
    .ok (if bs.isPrefixOf signature then []
      else Utf8.decode (if signature.isPrefixOf bs then bs.drop 3 else bs))⟩

/-- Names of hosts, which are never read with replacements. -/
def hostNames : Encoding :=
  ⟨"idna", [], fun _ => .error .strictOnly⟩

/-- The encoding of no text. -/
def undefined : Encoding :=
  ⟨"undefined", [], fun _ => .error .empty⟩

/-- The alphabets. -/
def alphabets : List Alphabet :=
  [.latin1, .ascii, .identity] ++ Alphabet.iso ++ Alphabet.windows ++ Alphabet.codePages ++ Alphabet.macs ++
    Alphabet.regional ++ Alphabet.mainframes

/-- All encodings. -/
def all : List Encoding :=
  [utf8, signed, Utf7.encoding, Punycode.encoding, hostNames, undefined] ++ alphabets.map ofAlphabet ++
    Wide.encodings ++ Escaped.encodings ++ Japanese.encodings ++ Korean.encodings ++ Simplified.encodings ++
    Traditional.encodings ++ Designated.encodings

/-- The codecs that turn octets into octets, so that no text comes of them. -/
def octetCodecs : List (String × List String) :=
  [("base64_codec", ["base64", "base_64"]), ("bz2_codec", ["bz2"]), ("hex_codec", ["hex"]),
    ("quopri_codec", ["quopri", "quoted_printable", "quotedprintable"]), ("rot_13", ["rot13"]),
    ("uu_codec", ["uu"]), ("zlib_codec", ["zip", "zlib"])]

/-- The name is that of a codec from which no text comes. -/
def isOctetCodec (name : String) : Bool :=
  octetCodecs.any fun c => isNamed (plainName name.toList) c.1 c.2

/-- The word for the encoding of the surroundings. -/
def surroundings : String := "locale"

/-- The encoding of a name. -/
def ofName? (name : String) : Option Encoding :=
  if name = surroundings then some utf8
  else all.find? fun e => isNamed (plainName name.toList) e.name e.aliases

end TexBuild.Encoding
