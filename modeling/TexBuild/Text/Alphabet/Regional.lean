import TexBuild.Text.Alphabet

namespace TexBuild.Alphabet

/-- Russian letters. -/
def koi8Russian : Alphabet where
  name := "koi8_r"
  aliases := ["cskoi8r"]
  rows := ["─│┌┐└┘├┤┬┴┼▀▄█▌▐░▒▓⌠■∙√≈≤≥\xa0⌡°²·÷",
    "═║╒ё╓╔╕╖╗╘╙╚╛╜╝╞╟╠╡Ё╢╣╤╥╦╧╨╩╪╫╬©",
    "юабцдефгхийклмнопярстужвьызшэщчъ",
    "ЮАБЦДЕФГХИЙКЛМНОПЯРСТУЖВЬЫЗШЭЩЧЪ"]

/-- Ukrainian letters. -/
def koi8Ukrainian : Alphabet where
  name := "koi8_u"
  aliases := []
  rows := ["─│┌┐└┘├┤┬┴┼▀▄█▌▐░▒▓⌠■∙√≈≤≥\xa0⌡°²·÷",
    "═║╒ёє╔ії╗╘╙╚╛ґ╝╞╟╠╡ЁЄ╣ІЇ╦╧╨╩╪Ґ╬©",
    "юабцдефгхийклмнопярстужвьызшэщчъ",
    "ЮАБЦДЕФГХИЙКЛМНОПЯРСТУЖВЬЫЗШЭЩЧЪ"]

/-- Tajik letters. -/
def koi8Tajik : Alphabet where
  name := "koi8_t"
  aliases := []
  rows := ["қғ‚Ғ„…†‡�‰ҳ‹ҲҷҶ�Қ‘’“”•–—�™�›����",
    "�ӯӮё¤ӣ¦§���«¬\xad®�°±²Ё�Ӣ¶·�№�»���©",
    "юабцдефгхийклмнопярстужвьызшэщчъ",
    "ЮАБЦДЕФГХИЙКЛМНОПЯРСТУЖВЬЫЗШЭЩЧЪ"]

/-- Kazakh letters. -/
def kazakh : Alphabet where
  name := "kz1048"
  aliases := ["kz_1048", "rk1048", "strk1048_2002"]
  rows := ["ЂЃ‚ѓ„…†‡€‰Љ‹ЊҚҺЏђ‘’“”•–—�™љ›њқһџ",
    "\xa0ҰұӘ¤Ө¦§Ё©Ғ«¬\xad®Ү°±Ііөµ¶·ё№ғ»әҢңү",
    "АБВГДЕЖЗИЙКЛМНОПРСТУФХЦЧШЩЪЫЬЭЮЯ",
    "абвгдежзийклмнопрстуфхцчшщъыьэюя"]

/-- Cyrillic letters of Asia. -/
def asianCyrillic : Alphabet where
  name := "ptcp154"
  aliases := ["cp154", "csptcp154", "cyrillic_asian", "pt154"]
  rows := ["ҖҒӮғ„…ҶҮҲүҠӢҢҚҺҸҗ‘’“”•–—ҳҷҡӣңқһҹ",
    "\xa0ЎўЈӨҘҰ§Ё©Ә«¬ӯ®Ҝ°ұІіҙө¶·ё№ә»јҪҫҝ",
    "АБВГДЕЖЗИЙКЛМНОПРСТУФХЦЧШЩЪЫЬЭЮЯ",
    "абвгдежзийклмнопрстуфхцчшщъыьэюя"]

/-- Western European letters of workstations. -/
def roman8 : Alphabet where
  name := "hp_roman8"
  aliases := ["cp1051", "ibm1051", "r8", "roman8"]
  rows := ["\xa0ÀÂÈÊËÎÏ´ˋˆ¨˜ÙÛ₤¯Ýý°ÇçÑñ¡¿¤£¥§ƒ¢",
    "âêôûáéóúàèòùäëöüÅîØÆåíøæÄìÖÜÉïßÔ",
    "ÁÃãÐðÍÌÓÒÕõŠšÚŸÿÞþ·µ¶¾—¼½ªº«■»±�"]

/-- Western European letters of hand-held computers. -/
def palm : Alphabet where
  name := "palmos"
  aliases := []
  rows := ["€\x81‚ƒ„…†‡ˆ‰Š‹Œ♦♣♥♠‘’“”•–—˜™š\x9bœ\x9d\x9eŸ",
    "\xa0¡¢£¤¥¦§¨©ª«¬\xad®¯°±²³´µ¶·¸¹º»¼½¾¿",
    "ÀÁÂÃÄÅÆÇÈÉÊËÌÍÎÏÐÑÒÓÔÕÖ×ØÙÚÛÜÝÞß",
    "àáâãäåæçèéêëìíîïðñòóôõö÷øùúûüýþÿ"]

/-- Sets of single regions and makers. -/
def regional : List Alphabet :=
  [koi8Russian, koi8Ukrainian, koi8Tajik, kazakh, asianCyrillic, roman8, palm]

end TexBuild.Alphabet
