import CredentialRotation.Text.Joining
import CredentialRotation.Text.Lowercase
import CredentialRotation.Text.Split

/-!
# Url — Folding

What a character of a host name stands for.  Capitals stand for their small letters, and a character
that is only another form of others stands for these; some stand for nothing, and some may not be in
a name.

**Main statement.**  ASCII letters stand for their small letters (`fold?_ascii`).
-/

namespace CredentialRotation.Url

open CredentialRotation.Text

/-- The characters that stand for nothing. -/
def silentRanges : Ranges :=
  [(0x00AD, 0x00AD), (0x034F, 0x034F), (0x115F, 0x1160), (0x17B4, 0x17B5), (0x180B, 0x180F),
    (0x200B, 0x200B), (0x2060, 0x2064), (0x206A, 0x206F), (0x3164, 0x3164), (0xFE00, 0xFE0F),
    (0xFEFF, 0xFEFF), (0xFFA0, 0xFFA0), (0x1BCA0, 0x1BCA3), (0x1D173, 0x1D17A), (0xE0100, 0xE01EF)]

/-- The printable characters that may not be in a name: forms of other characters and a dot, and
descriptions of characters. -/
def refusedRanges : Ranges :=
  [(0x2024, 0x2026), (0x2488, 0x249B), (0x2FF0, 0x2FFF), (0x31EF, 0x31EF), (0x33C2, 0x33C2),
    (0x33C7, 0x33C7), (0x33D8, 0x33D8), (0xFE12, 0xFE12), (0xFE19, 0xFE19), (0xFE30, 0xFE30),
    (0xFE52, 0xFE52), (0xFFFC, 0xFFFD), (0x1F100, 0x1F100)]

/-- The characters that stand for others at the same distance from each other. -/
def shiftedRuns : List CapitalRun :=
  [
    ⟨0x13A0, 0x13F5, 1, 0x13A0⟩, ⟨0x13F8, 0x13FD, 1, 0x13F0⟩, ⟨0x1D33, 0x1D3A, 1, 0x0067⟩,
    ⟨0x1DAE, 0x1DB1, 1, 0x0272⟩, ⟨0x2074, 0x2079, 1, 0x0034⟩, ⟨0x2080, 0x2089, 1, 0x0030⟩,
    ⟨0x2096, 0x2099, 1, 0x006B⟩, ⟨0x2135, 0x2138, 1, 0x05D0⟩, ⟨0x2460, 0x2468, 1, 0x0031⟩,
    ⟨0x24B6, 0x24CF, 1, 0x0061⟩, ⟨0x24D0, 0x24E9, 1, 0x0061⟩, ⟨0x313A, 0x313F, 1, 0x11B0⟩,
    ⟨0x3145, 0x314E, 1, 0x1109⟩, ⟨0x314F, 0x3163, 1, 0x1161⟩, ⟨0x3178, 0x317C, 1, 0x112B⟩,
    ⟨0x3269, 0x326D, 1, 0x110E⟩, ⟨0x32E4, 0x32E9, 1, 0x30CA⟩, ⟨0x32EE, 0x32F2, 1, 0x30DE⟩,
    ⟨0x32F5, 0x32FA, 1, 0x30E8⟩, ⟨0x32FB, 0x32FE, 1, 0x30EF⟩, ⟨0xAB70, 0xABBF, 1, 0x13A0⟩,
    ⟨0xFE41, 0xFE44, 1, 0x300C⟩, ⟨0xFF01, 0xFF20, 1, 0x0021⟩, ⟨0xFF21, 0xFF3A, 1, 0x0061⟩,
    ⟨0xFF3B, 0xFF5E, 1, 0x005B⟩, ⟨0xFF85, 0xFF8A, 1, 0x30CA⟩, ⟨0xFF8F, 0xFF93, 1, 0x30DE⟩,
    ⟨0xFF96, 0xFF9B, 1, 0x30E8⟩, ⟨0xFFAA, 0xFFAF, 1, 0x11B0⟩, ⟨0xFFB5, 0xFFBE, 1, 0x1109⟩,
    ⟨0xFFC2, 0xFFC7, 1, 0x1161⟩, ⟨0xFFCA, 0xFFCF, 1, 0x1167⟩, ⟨0xFFD2, 0xFFD7, 1, 0x116D⟩,
    ⟨0xFFE9, 0xFFEC, 1, 0x2190⟩, ⟨0x1CCD6, 0x1CCEF, 1, 0x0061⟩, ⟨0x1CCF0, 0x1CCF9, 1, 0x0030⟩,
    ⟨0x1D400, 0x1D419, 1, 0x0061⟩, ⟨0x1D41A, 0x1D433, 1, 0x0061⟩, ⟨0x1D434, 0x1D44D, 1, 0x0061⟩,
    ⟨0x1D44E, 0x1D454, 1, 0x0061⟩, ⟨0x1D456, 0x1D467, 1, 0x0069⟩, ⟨0x1D468, 0x1D481, 1, 0x0061⟩,
    ⟨0x1D482, 0x1D49B, 1, 0x0061⟩, ⟨0x1D4A9, 0x1D4AC, 1, 0x006E⟩, ⟨0x1D4AE, 0x1D4B5, 1, 0x0073⟩,
    ⟨0x1D4B6, 0x1D4B9, 1, 0x0061⟩, ⟨0x1D4BE, 0x1D4C3, 1, 0x0069⟩, ⟨0x1D4C5, 0x1D4CF, 1, 0x0070⟩,
    ⟨0x1D4D0, 0x1D4E9, 1, 0x0061⟩, ⟨0x1D4EA, 0x1D503, 1, 0x0061⟩, ⟨0x1D507, 0x1D50A, 1, 0x0064⟩,
    ⟨0x1D50D, 0x1D514, 1, 0x006A⟩, ⟨0x1D516, 0x1D51C, 1, 0x0073⟩, ⟨0x1D51E, 0x1D537, 1, 0x0061⟩,
    ⟨0x1D53B, 0x1D53E, 1, 0x0064⟩, ⟨0x1D540, 0x1D544, 1, 0x0069⟩, ⟨0x1D54A, 0x1D550, 1, 0x0073⟩,
    ⟨0x1D552, 0x1D56B, 1, 0x0061⟩, ⟨0x1D56C, 0x1D585, 1, 0x0061⟩, ⟨0x1D586, 0x1D59F, 1, 0x0061⟩,
    ⟨0x1D5A0, 0x1D5B9, 1, 0x0061⟩, ⟨0x1D5BA, 0x1D5D3, 1, 0x0061⟩, ⟨0x1D5D4, 0x1D5ED, 1, 0x0061⟩,
    ⟨0x1D5EE, 0x1D607, 1, 0x0061⟩, ⟨0x1D608, 0x1D621, 1, 0x0061⟩, ⟨0x1D622, 0x1D63B, 1, 0x0061⟩,
    ⟨0x1D63C, 0x1D655, 1, 0x0061⟩, ⟨0x1D656, 0x1D66F, 1, 0x0061⟩, ⟨0x1D670, 0x1D689, 1, 0x0061⟩,
    ⟨0x1D68A, 0x1D6A3, 1, 0x0061⟩, ⟨0x1D6A8, 0x1D6B8, 1, 0x03B1⟩, ⟨0x1D6BA, 0x1D6C0, 1, 0x03C3⟩,
    ⟨0x1D6C2, 0x1D6D2, 1, 0x03B1⟩, ⟨0x1D6D4, 0x1D6DA, 1, 0x03C3⟩, ⟨0x1D6E2, 0x1D6F2, 1, 0x03B1⟩,
    ⟨0x1D6F4, 0x1D6FA, 1, 0x03C3⟩, ⟨0x1D6FC, 0x1D70C, 1, 0x03B1⟩, ⟨0x1D70E, 0x1D714, 1, 0x03C3⟩,
    ⟨0x1D71C, 0x1D72C, 1, 0x03B1⟩, ⟨0x1D72E, 0x1D734, 1, 0x03C3⟩, ⟨0x1D736, 0x1D746, 1, 0x03B1⟩,
    ⟨0x1D748, 0x1D74E, 1, 0x03C3⟩, ⟨0x1D756, 0x1D766, 1, 0x03B1⟩, ⟨0x1D768, 0x1D76E, 1, 0x03C3⟩,
    ⟨0x1D770, 0x1D780, 1, 0x03B1⟩, ⟨0x1D782, 0x1D788, 1, 0x03C3⟩, ⟨0x1D790, 0x1D7A0, 1, 0x03B1⟩,
    ⟨0x1D7A2, 0x1D7A8, 1, 0x03C3⟩, ⟨0x1D7AA, 0x1D7BA, 1, 0x03B1⟩, ⟨0x1D7BC, 0x1D7C2, 1, 0x03C3⟩,
    ⟨0x1D7CE, 0x1D7D7, 1, 0x0030⟩, ⟨0x1D7D8, 0x1D7E1, 1, 0x0030⟩, ⟨0x1D7E2, 0x1D7EB, 1, 0x0030⟩,
    ⟨0x1D7EC, 0x1D7F5, 1, 0x0030⟩, ⟨0x1D7F6, 0x1D7FF, 1, 0x0030⟩, ⟨0x1E030, 0x1E038, 1, 0x0430⟩,
    ⟨0x1E03C, 0x1E046, 1, 0x043E⟩, ⟨0x1E051, 0x1E059, 1, 0x0430⟩, ⟨0x1E05F, 0x1E064, 1, 0x0443⟩,
    ⟨0x1EE0A, 0x1EE0D, 1, 0x0643⟩, ⟨0x1EE2A, 0x1EE2D, 1, 0x0643⟩, ⟨0x1F130, 0x1F149, 1, 0x0061⟩,
    ⟨0x1FBF0, 0x1FBF9, 1, 0x0030⟩]

/-- What further characters stand for: those from the code point on, one after the other, between
bars. -/
def listedForms : List (Nat × String) :=
  [
    (0x00A8, " \u0308|©|a"), (0x00AF, " \u0304|°|±|2|3| \u0301|μ|¶|·| \u0327|1|o|»|1⁄4|1⁄2|3⁄4"),
    (0x0132, "ij|ij"), (0x013F, "l·|l·"), (0x0149, "\u02bcn"), (0x017F, "s"),
    (0x01C4, "dž|dž|dž|lj|lj|lj|nj|nj|nj"), (0x01F1, "dz|dz|dz"), (0x02B0, "h|ɦ|j|r|ɹ|ɻ|ʁ|w|y"),
    (0x02D8, " \u0306| \u0307| \u030a| \u0328| \u0303| \u030b|\u02de|\u02df|ɣ|l|s|x|ʕ"),
    (0x0340, "\u0300|\u0301|\u0342|\u0313|\u0308\u0301|ι"), (0x0374, "\u02b9"),
    (0x037A, " ι|ͻ|ͼ|ͽ|;"), (0x0384, " \u0301| \u0308\u0301"), (0x0387, "·"),
    (0x03D0, "β|θ|υ|ύ|ϋ|φ|π"), (0x03F0, "κ|ρ|σ"), (0x03F5, "ε"), (0x03F9, "σ"), (0x0587, "եւ"),
    (0x0675, "\u0627\u0674|\u0648\u0674|\u06c7\u0674|\u064a\u0674"),
    (0x0958, "क\u093c|ख\u093c|ग\u093c|ज\u093c|ड\u093c|ढ\u093c|फ\u093c|य\u093c"),
    (0x09DC, "ড\u09bc|ঢ\u09bc"), (0x09DF, "য\u09bc"), (0x0A33, "ਲ\u0a3c"), (0x0A36, "ਸ\u0a3c"),
    (0x0A59, "ਖ\u0a3c|ਗ\u0a3c|ਜ\u0a3c"), (0x0A5E, "ਫ\u0a3c"), (0x0B5C, "ଡ\u0b3c|ଢ\u0b3c"),
    (0x0E33, "\u0e4dา"), (0x0EB3, "\u0ecdາ"), (0x0EDC, "ຫນ|ຫມ"), (0x0F0C, "་"), (0x0F43, "ག\u0fb7"),
    (0x0F4D, "ཌ\u0fb7|ཎ|ཏ|ཐ|ད|ད\u0fb7|ན|པ|ཕ|བ|བ\u0fb7|མ|ཙ|ཚ|ཛ|ཛ\u0fb7"), (0x0F69, "ཀ\u0fb5"),
    (0x0F73, "\u0f71\u0f72|\u0f74|\u0f71\u0f74|\u0fb2\u0f80|\u0fb2\u0f71\u0f80|\u0fb3\u0f80"),
    (0x0F79, "\u0fb3\u0f71\u0f80"), (0x0F81, "\u0f71\u0f80"), (0x0F93, "\u0f92\u0fb7"),
    (0x0F9D, "\u0f9c\u0fb7|\u0f9e|\u0f9f|\u0fa0|\u0fa1|\u0fa1\u0fb7|\u0fa3|\u0fa4|\u0fa5"),
    (0x0FA6, "\u0fa6|\u0fa6\u0fb7|\u0fa8|\u0fa9|\u0faa|\u0fab|\u0fab\u0fb7"),
    (0x0FB9, "\u0f90\u0fb5"), (0x10FC, "ნ"), (0x1C80, "в|д|о|с|т|т|ъ|ѣ|ꙋ"),
    (0x1D2C, "a|æ|b|\u1d2f|d|e|ǝ"),
    (0x1D3C, "o|ȣ|p|r|t|u|w|a|ɐ|ɑ|ᴂ|b|d|e|ə|ɛ|ɜ|g|\u1d4e|k|m|ŋ|o|ɔ|ᴖ|ᴗ|p|t|u|ᴝ|ɯ|v|ᴥ|β|γ|δ|φ|χ"),
    (0x1D62, "i|r|u|v|β|γ|ρ|φ|χ"), (0x1D78, "н"),
    (0x1D9B, "ɒ|c|ɕ|ð|ɜ|f|ɟ|ɡ|ɥ|ɨ|ɩ|ɪ|ᵻ|ʝ|ɭ|ᶅ|ʟ|ɱ|ɰ|ɲ|ɳ|ɴ|ɵ|ɸ|ʂ|ʃ|ƫ|ʉ|ʊ|ᴜ|ʋ|ʌ|z|ʐ|ʑ|ʒ|θ"),
    (0x1E9A, "a\u02be|ṡ"), (0x1F71, "ά|ὲ|έ|ὴ|ή|ὶ|ί|ὸ|ό|ὺ|ύ|ὼ|ώ"),
    (0x1F80, "ἀι|ἁι|ἂι|ἃι|ἄι|ἅι|ἆι|ἇι|ἀι|ἁι|ἂι|ἃι|ἄι|ἅι|ἆι|ἇι|ἠι|ἡι|ἢι|ἣι|ἤι|ἥι|ἦι|ἧι|ἠι|ἡι|ἢι"),
    (0x1F9B, "ἣι|ἤι|ἥι|ἦι|ἧι|ὠι|ὡι|ὢι|ὣι|ὤι|ὥι|ὦι|ὧι|ὠι|ὡι|ὢι|ὣι|ὤι|ὥι|ὦι|ὧι|ᾰ|ᾱ|ὰι|αι|άι"),
    (0x1FB7, "ᾶι"), (0x1FBB, "ά|αι| \u0313|ι| \u0313| \u0342| \u0308\u0342|ὴι|ηι|ήι"),
    (0x1FC7, "ῆι"), (0x1FC9, "έ"),
    (0x1FCB, "ή|ηι| \u0313\u0300| \u0313\u0301| \u0313\u0342|ῐ|ῑ|ῒ|ΐ"), (0x1FDB, "ί"),
    (0x1FDD, " \u0314\u0300| \u0314\u0301| \u0314\u0342|ῠ|ῡ|ῢ|ΰ"), (0x1FEB, "ύ"),
    (0x1FED, " \u0308\u0300| \u0308\u0301|\x60"), (0x1FF2, "ὼι|ωι|ώι"), (0x1FF7, "ῶι"),
    (0x1FF9, "ό"), (0x1FFB, "ώ|ωι| \u0301| \u0314"), (0x2011, "‐|‒|–|—|―|‖| \u0333"),
    (0x2033, "′′|′′′|‵|‵‵|‵‵‵|‸|‹|›|※|!!|‽| \u0305"), (0x2047, "??|?!|!?"), (0x2057, "′′′′"),
    (0x2070, "0|i"), (0x207A, "+|−|=|(|)|n"), (0x208A, "+|−|=|(|)"),
    (0x2090, "a|e|o|x|ə|h|k|l|m|n|p|s|t"), (0x20A8, "rs"),
    (0x2100, "a/c|a/s|c|°c|℄|c/o|c/u|ɛ|℈|°f|g|h|h|h|h|ħ|i|i|l|l|℔|n|no|℗|℘|p|q|r|r|r|℞|℟|sm"),
    (0x2121, "tel|tm|℣|z"), (0x2128, "z"), (0x212C, "b|c|℮|e|e|f"),
    (0x2133, "m|o|\u05d0|\u05d1|\u05d2|\u05d3|i|℺|fax|π|γ|γ|π|∑|⅁|⅂|⅃|⅄|d|d|e|i|j"),
    (0x2150, "1⁄7|1⁄9|1⁄10|1⁄3|2⁄3|1⁄5|2⁄5|3⁄5|4⁄5|1⁄6|5⁄6|1⁄8|3⁄8|5⁄8|7⁄8|1⁄|i|ii|iii|iv|v|vi"),
    (0x2166, "vii|viii|ix|x|xi|xii|l|c|d|m|i|ii|iii|iv|v|vi|vii|viii|ix|x|xi|xii|l|c|d|m"),
    (0x2189, "0⁄3"), (0x222C, "∫∫|∫∫∫|∮|∮∮|∮∮∮"), (0x2329, "〈|〉"),
    (0x2469, "10|11|12|13|14|15|16|17|18|19|20|(1)|(2)|(3)|(4)|(5)|(6)|(7)|(8)|(9)|(10)|(11)"),
    (0x247F, "(12)|(13)|(14)|(15)|(16)|(17)|(18)|(19)|(20)"),
    (0x249C, "(a)|(b)|(c)|(d)|(e)|(f)|(g)|(h)|(i)|(j)|(k)|(l)|(m)|(n)|(o)|(p)|(q)|(r)|(s)|(t)"),
    (0x24B0, "(u)|(v)|(w)|(x)|(y)|(z)"), (0x24EA, "0"), (0x2A0C, "∫∫∫∫"), (0x2A74, "::=|==|==="),
    (0x2ADC, "⫝\u0338"), (0x2C7C, "j|v"), (0x2D6F, "ⵡ"), (0x2E9F, "母"), (0x2EF3, "龟"),
    (0x2F00, "一|丨|丶|丿|乙|亅|二|亠|人|儿|入|八|冂|冖|冫|几|凵|刀|力|勹|匕|匚|匸|十|卜|卩|厂|厶|又|口|囗|土|士|夂|夊|夕|大|女|子|宀"),
    (0x2F28, "寸|小|尢|尸|屮|山|巛|工|己|巾|干|幺|广|廴|廾|弋|弓|彐|彡|彳|心|戈|戶|手|支|攴|文|斗|斤|方|无|日|曰|月|木|欠|止|歹|殳|毋"),
    (0x2F50, "比|毛|氏|气|水|火|爪|父|爻|爿|片|牙|牛|犬|玄|玉|瓜|瓦|甘|生|用|田|疋|疒|癶|白|皮|皿|目|矛|矢|石|示|禸|禾|穴|立|竹|米|糸"),
    (0x2F78, "缶|网|羊|羽|老|而|耒|耳|聿|肉|臣|自|至|臼|舌|舛|舟|艮|色|艸|虍|虫|血|行|衣|襾|見|角|言|谷|豆|豕|豸|貝|赤|走|足|身|車|辛"),
    (0x2FA0, "辰|辵|邑|酉|釆|里|金|長|門|阜|隶|隹|雨|靑|非|面|革|韋|韭|音|頁|風|飛|食|首|香|馬|骨|高|髟|鬥|鬯|鬲|鬼|魚|鳥|鹵|鹿|麥|麻"),
    (0x2FC8, "黃|黍|黑|黹|黽|鼎|鼓|鼠|鼻|齊|齒|龍|龜|龠"), (0x3002, "."), (0x3036, "〒|〷|十|卄|卅"),
    (0x309B, " \u3099| \u309a|\u309d|\u309e|より"), (0x30FF, "コト"), (0x3131, "ᄀ|ᄁ|ᆪ|ᄂ|ᆬ|ᆭ|ᄃ|ᄄ|ᄅ"),
    (0x3140, "ᄚ|ᄆ|ᄇ|ᄈ|ᄡ"),
    (0x3165, "ᄔ|ᄕ|ᇇ|ᇈ|ᇌ|ᇎ|ᇓ|ᇗ|ᇙ|ᄜ|ᇝ|ᇟ|ᄝ|ᄞ|ᄠ|ᄢ|ᄣ|ᄧ|ᄩ|ᄫ|ᄬ|ᄭ|ᄮ|ᄯ|ᄲ|ᄶ|ᅀ|ᅇ|ᅌ|ᇱ|ᇲ|ᅗ|ᅘ|ᅙ|ᆄ|ᆅ|ᆈ|ᆑ|ᆒ|ᆔ"),
    (0x318D, "ᆞ|ᆡ"), (0x3192, "一|二|三|四|上|中|下|甲|乙|丙|丁|天|地|人"),
    (0x3200, "(ᄀ)|(ᄂ)|(ᄃ)|(ᄅ)|(ᄆ)|(ᄇ)|(ᄉ)|(ᄋ)|(ᄌ)|(ᄎ)|(ᄏ)|(ᄐ)|(ᄑ)|(ᄒ)|(가)|(나)|(다)|(라)|(마)|(바)"),
    (0x3214, "(사)|(아)|(자)|(차)|(카)|(타)|(파)|(하)|(주)|(오전)|(오후)"),
    (0x3220, "(一)|(二)|(三)|(四)|(五)|(六)|(七)|(八)|(九)|(十)|(月)|(火)|(水)|(木)|(金)|(土)|(日)|(株)|(有)|(社)"),
    (0x3234, "(名)|(特)|(財)|(祝)|(労)|(代)|(呼)|(学)|(監)|(企)|(資)|(協)|(祭)|(休)|(自)|(至)|問|幼|文|箏"),
    (0x3250, "pte|21|22|23|24|25|26|27|28|29|30|31|32|33|34|35|ᄀ|ᄂ|ᄃ|ᄅ|ᄆ|ᄇ|ᄉ|ᄋ|ᄌ|ᄎ|ᄏ|ᄐ|ᄑ|ᄒ|가|나"),
    (0x3270, "다|라|마|바|사|아|자|차|카|타|파|하|참고|주의|우|㉿|一|二|三|四|五|六|七|八|九|十|月|火|水|木|金|土|日|株|有|社|名|特|財"),
    (0x3297, "祝|労|秘|男|女|適|優|印|注|項|休|写|正|上|中|下|左|右|医|宗|学|監|企|資|協|夜|36|37|38|39|40|41|42|43|44"),
    (0x32BA, "45|46|47|48|49|50|1月|2月|3月|4月|5月|6月|7月|8月|9月|10月|11月|12月|hg|erg|ev|ltd|ア|イ|ウ|エ|オ"),
    (0x32D5, "カ|キ|ク|ケ|コ|サ|シ|ス|セ|ソ|タ|チ|ツ|テ|ト"), (0x32EA, "ヒ|フ|ヘ|ホ|マ|ミ|ム|メ|モ|ヤ|ユ"),
    (0x32FF, "令和|アパ\u30fcト|アルファ|アンペア|ア\u30fcル|イニング|インチ|ウォン|エスク\u30fcド|エ\u30fcカ\u30fc|オンス"),
    (0x330A, "オ\u30fcム|カイリ|カラット|カロリ\u30fc|ガロン|ガンマ|ギガ|ギニ\u30fc|キュリ\u30fc|ギルダ\u30fc|キロ|キログラム"),
    (0x3316, "キロメ\u30fcトル|キロワット|グラム|グラムトン|クルゼイロ|クロ\u30fcネ|ケ\u30fcス|コルナ|コ\u30fcポ|サイクル"),
    (0x3320, "サンチ\u30fcム|シリング|センチ|セント|ダ\u30fcス|デシ|ドル|トン|ナノ|ノット|ハイツ|パ\u30fcセント|パ\u30fcツ"),
    (0x332D, "バ\u30fcレル|ピアストル|ピクル|ピコ|ビル|ファラッド|フィ\u30fcト|ブッシェル|フラン|ヘクタ\u30fcル|ペソ|ペニヒ|ヘルツ|ペンス"),
    (0x333B, "ペ\u30fcジ|ベ\u30fcタ|ポイント|ボルト|ホン|ポンド|ホ\u30fcル|ホ\u30fcン|マイクロ|マイル|マッハ|マルク|マンション|ミクロン"),
    (0x3349, "ミリ|ミリバ\u30fcル|メガ|メガトン|メ\u30fcトル|ヤ\u30fcド|ヤ\u30fcル|ユアン|リットル|リラ|ルピ\u30fc|ル\u30fcブル"),
    (0x3355, "レム|レントゲン|ワット|0点|1点|2点|3点|4点|5点|6点|7点|8点|9点|10点|11点|12点|13点|14点|15点|16点|17点|18点"),
    (0x336B, "19点|20点|21点|22点|23点|24点|hpa|da|au|bar|ov|pc|dm|dm2|dm3|iu|平成|昭和|大正|明治|株式会社|pa|na"),
    (0x3382, "μa|ma|ka|kb|mb|gb|cal|kcal|pf|nf|μf|μg|mg|kg|hz|khz|mhz|ghz|thz|μl|ml|dl|kl|fm"),
    (0x339A, "nm|μm|mm|cm|km|mm2|cm2|m2|km2|mm3|cm3|m3|km3|m∕s|m∕s2|pa|kpa|mpa|gpa|rad|rad∕s"),
    (0x33AF, "rad∕s2|ps|ns|μs|ms|pv|nv|μv|mv|kv|mv|pw|nw|μw|mw|kw|mw|kω|mω"),
    (0x33C3, "bq|cc|cd|c∕kg"), (0x33C8, "db|gy|ha|hp|in|kk|km|kt|lm|ln|log|lx|mb|mil|mol|ph"),
    (0x33D9, "ppm|pr|sr|sv|wb|v∕m|a∕m|1日|2日|3日|4日|5日|6日|7日|8日|9日|10日|11日|12日|13日|14日|15日|16日"),
    (0x33F0, "17日|18日|19日|20日|21日|22日|23日|24日|25日|26日|27日|28日|29日|30日|31日|gal"), (0xA69C, "ъ|ь"),
    (0xA770, "ꝯ"), (0xA7F1, "s|c|f|q"), (0xA7F8, "ħ|œ"), (0xAB5C, "ꜧ|ꬷ|ɫ|ꭒ"), (0xAB69, "ʍ"),
    (0xF900, "豈|更|車|賈|滑|串|句|龜|龜|契|金|喇|奈|懶|癩|羅|蘿|螺|裸|邏|樂|洛|烙|珞|落|酪|駱|亂|卵|欄|爛|蘭|鸞|嵐|濫|藍|襤|拉|臘|蠟"),
    (0xF928, "廊|朗|浪|狼|郎|來|冷|勞|擄|櫓|爐|盧|老|蘆|虜|路|露|魯|鷺|碌|祿|綠|菉|錄|鹿|論|壟|弄|籠|聾|牢|磊|賂|雷|壘|屢|樓|淚|漏|累"),
    (0xF950, "縷|陋|勒|肋|凜|凌|稜|綾|菱|陵|讀|拏|樂|諾|丹|寧|怒|率|異|北|磻|便|復|不|泌|數|索|參|塞|省|葉|說|殺|辰|沈|拾|若|掠|略|亮"),
    (0xF978, "兩|凉|梁|糧|良|諒|量|勵|呂|女|廬|旅|濾|礪|閭|驪|麗|黎|力|曆|歷|轢|年|憐|戀|撚|漣|煉|璉|秊|練|聯|輦|蓮|連|鍊|列|劣|咽|烈"),
    (0xF9A0, "裂|說|廉|念|捻|殮|簾|獵|令|囹|寧|嶺|怜|玲|瑩|羚|聆|鈴|零|靈|領|例|禮|醴|隸|惡|了|僚|寮|尿|料|樂|燎|療|蓼|遼|龍|暈|阮|劉"),
    (0xF9C8, "杻|柳|流|溜|琉|留|硫|紐|類|六|戮|陸|倫|崙|淪|輪|律|慄|栗|率|隆|利|吏|履|易|李|梨|泥|理|痢|罹|裏|裡|里|離|匿|溺|吝|燐|璘"),
    (0xF9F0, "藺|隣|鱗|麟|林|淋|臨|立|笠|粒|狀|炙|識|什|茶|刺|切|度|拓|糖|宅|洞|暴|輻|行|降|見|廓|兀|嗀|﨎|﨏|塚|﨑|晴|﨓|﨔|凞|猪|益"),
    (0xFA18, "礼|神|祥|福|靖|精|羽|﨟|蘒|﨡|諸|﨣|﨤|逸|都|﨧|﨨|﨩|飯|飼|館|鶴|郞|隷|侮|僧|免|勉|勤|卑|喝|嘆|器|塀|墨|層|屮|悔|慨|憎"),
    (0xFA40, "懲|敏|既|暑|梅|海|渚|漢|煮|爫|琢|碑|社|祉|祈|祐|祖|祝|禍|禎|穀|突|節|練|縉|繁|署|者|臭|艹|艹|著|褐|視|謁|謹|賓|贈|辶|逸"),
    (0xFA68, "難|響|頻|恵|𤋮|舘"),
    (0xFA70, "並|况|全|侀|充|冀|勇|勺|喝|啕|喙|嗢|塚|墳|奄|奔|婢|嬨|廒|廙|彩|徭|惘|慎|愈|憎|慠|懲|戴|揄|搜|摒|敖|晴|朗|望|杖|歹|殺|流"),
    (0xFA98, "滛|滋|漢|瀞|煮|瞧|爵|犯|猪|瑱|甆|画|瘝|瘟|益|盛|直|睊|着|磌|窱|節|类|絛|練|缾|者|荒|華|蝹|襁|覆|視|調|諸|請|謁|諾|諭|謹"),
    (0xFAC0, "變|贈|輸|遲|醙|鉶|陼|難|靖|韛|響|頋|頻|鬒|龜|𢡊|𢡄|𣏕|㮝|䀘|䀹|𥉉|𥳐|𧻓|齃|龎"),
    (0xFB00, "ff|fi|fl|ffi|ffl|st|st"), (0xFB13, "մն|մե|մի|վն|մխ"),
    (0xFB1D, "\u05d9\u05b4|\ufb1e|\u05f2\u05b7|\u05e2|\u05d0|\u05d3|\u05d4|\u05db|\u05dc"),
    (0xFB26, "\u05dd|\u05e8|\u05ea|+|\u05e9\u05c1|\u05e9\u05c2|\u05e9\u05bc\u05c1"),
    (0xFB2D, "\u05e9\u05bc\u05c2|\u05d0\u05b7|\u05d0\u05b8|\u05d0\u05bc|\u05d1\u05bc"),
    (0xFB32, "\u05d2\u05bc|\u05d3\u05bc|\u05d4\u05bc|\u05d5\u05bc|\u05d6\u05bc"),
    (0xFB38, "\u05d8\u05bc|\u05d9\u05bc|\u05da\u05bc|\u05db\u05bc|\u05dc\u05bc"),
    (0xFB3E, "\u05de\u05bc"), (0xFB40, "\u05e0\u05bc|\u05e1\u05bc"),
    (0xFB43, "\u05e3\u05bc|\u05e4\u05bc"),
    (0xFB46, "\u05e6\u05bc|\u05e7\u05bc|\u05e8\u05bc|\u05e9\u05bc|\u05ea\u05bc|\u05d5\u05b9"),
    (0xFB4C, "\u05d1\u05bf|\u05db\u05bf|\u05e4\u05bf|\u05d0\u05dc|\u0671|\u0671|\u067b|\u067b"),
    (0xFB54, "\u067b|\u067b|\u067e|\u067e|\u067e|\u067e|\u0680|\u0680|\u0680|\u0680|\u067a"),
    (0xFB5F, "\u067a|\u067a|\u067a|\u067f|\u067f|\u067f|\u067f|\u0679|\u0679|\u0679|\u0679"),
    (0xFB6A, "\u06a4|\u06a4|\u06a4|\u06a4|\u06a6|\u06a6|\u06a6|\u06a6|\u0684|\u0684|\u0684"),
    (0xFB75, "\u0684|\u0683|\u0683|\u0683|\u0683|\u0686|\u0686|\u0686|\u0686|\u0687|\u0687"),
    (0xFB80, "\u0687|\u0687|\u068d|\u068d|\u068c|\u068c|\u068e|\u068e|\u0688|\u0688|\u0698"),
    (0xFB8B, "\u0698|\u0691|\u0691|\u06a9|\u06a9|\u06a9|\u06a9|\u06af|\u06af|\u06af|\u06af"),
    (0xFB96, "\u06b3|\u06b3|\u06b3|\u06b3|\u06b1|\u06b1|\u06b1|\u06b1|\u06ba|\u06ba|\u06bb"),
    (0xFBA1, "\u06bb|\u06bb|\u06bb|\u06c0|\u06c0|\u06c1|\u06c1|\u06c1|\u06c1|\u06be|\u06be"),
    (0xFBAC, "\u06be|\u06be|\u06d2|\u06d2|\u06d3|\u06d3"),
    (0xFBD3, "\u06ad|\u06ad|\u06ad|\u06ad|\u06c7|\u06c7|\u06c6|\u06c6|\u06c8|\u06c8"),
    (0xFBDD, "\u06c7\u0674|\u06cb|\u06cb|\u06c5|\u06c5|\u06c9|\u06c9|\u06d0|\u06d0|\u06d0"),
    (0xFBE7, "\u06d0|\u0649|\u0649|\u0626\u0627|\u0626\u0627|\u0626\u06d5|\u0626\u06d5"),
    (0xFBEE, "\u0626\u0648|\u0626\u0648|\u0626\u06c7|\u0626\u06c7|\u0626\u06c6|\u0626\u06c6"),
    (0xFBF4, "\u0626\u06c8|\u0626\u06c8|\u0626\u06d0|\u0626\u06d0|\u0626\u06d0|\u0626\u0649"),
    (0xFBFA, "\u0626\u0649|\u0626\u0649|\u06cc|\u06cc|\u06cc|\u06cc|\u0626\u062c|\u0626\u062d"),
    (0xFC02, "\u0626\u0645|\u0626\u0649|\u0626\u064a|\u0628\u062c|\u0628\u062d|\u0628\u062e"),
    (0xFC08, "\u0628\u0645|\u0628\u0649|\u0628\u064a|\u062a\u062c|\u062a\u062d|\u062a\u062e"),
    (0xFC0E, "\u062a\u0645|\u062a\u0649|\u062a\u064a|\u062b\u062c|\u062b\u0645|\u062b\u0649"),
    (0xFC14, "\u062b\u064a|\u062c\u062d|\u062c\u0645|\u062d\u062c|\u062d\u0645|\u062e\u062c"),
    (0xFC1A, "\u062e\u062d|\u062e\u0645|\u0633\u062c|\u0633\u062d|\u0633\u062e|\u0633\u0645"),
    (0xFC20, "\u0635\u062d|\u0635\u0645|\u0636\u062c|\u0636\u062d|\u0636\u062e|\u0636\u0645"),
    (0xFC26, "\u0637\u062d|\u0637\u0645|\u0638\u0645|\u0639\u062c|\u0639\u0645|\u063a\u062c"),
    (0xFC2C, "\u063a\u0645|\u0641\u062c|\u0641\u062d|\u0641\u062e|\u0641\u0645|\u0641\u0649"),
    (0xFC32, "\u0641\u064a|\u0642\u062d|\u0642\u0645|\u0642\u0649|\u0642\u064a|\u0643\u0627"),
    (0xFC38, "\u0643\u062c|\u0643\u062d|\u0643\u062e|\u0643\u0644|\u0643\u0645|\u0643\u0649"),
    (0xFC3E, "\u0643\u064a|\u0644\u062c|\u0644\u062d|\u0644\u062e|\u0644\u0645|\u0644\u0649"),
    (0xFC44, "\u0644\u064a|\u0645\u062c|\u0645\u062d|\u0645\u062e|\u0645\u0645|\u0645\u0649"),
    (0xFC4A, "\u0645\u064a|\u0646\u062c|\u0646\u062d|\u0646\u062e|\u0646\u0645|\u0646\u0649"),
    (0xFC50, "\u0646\u064a|\u0647\u062c|\u0647\u0645|\u0647\u0649|\u0647\u064a|\u064a\u062c"),
    (0xFC56, "\u064a\u062d|\u064a\u062e|\u064a\u0645|\u064a\u0649|\u064a\u064a|\u0630\u0670"),
    (0xFC5C, "\u0631\u0670|\u0649\u0670| \u064c\u0651| \u064d\u0651| \u064e\u0651"),
    (0xFC61, " \u064f\u0651| \u0650\u0651| \u0651\u0670|\u0626\u0631|\u0626\u0632|\u0626\u0645"),
    (0xFC67, "\u0626\u0646|\u0626\u0649|\u0626\u064a|\u0628\u0631|\u0628\u0632|\u0628\u0645"),
    (0xFC6D, "\u0628\u0646|\u0628\u0649|\u0628\u064a|\u062a\u0631|\u062a\u0632|\u062a\u0645"),
    (0xFC73, "\u062a\u0646|\u062a\u0649|\u062a\u064a|\u062b\u0631|\u062b\u0632|\u062b\u0645"),
    (0xFC79, "\u062b\u0646|\u062b\u0649|\u062b\u064a|\u0641\u0649|\u0641\u064a|\u0642\u0649"),
    (0xFC7F, "\u0642\u064a|\u0643\u0627|\u0643\u0644|\u0643\u0645|\u0643\u0649|\u0643\u064a"),
    (0xFC85, "\u0644\u0645|\u0644\u0649|\u0644\u064a|\u0645\u0627|\u0645\u0645|\u0646\u0631"),
    (0xFC8B, "\u0646\u0632|\u0646\u0645|\u0646\u0646|\u0646\u0649|\u0646\u064a|\u0649\u0670"),
    (0xFC91, "\u064a\u0631|\u064a\u0632|\u064a\u0645|\u064a\u0646|\u064a\u0649|\u064a\u064a"),
    (0xFC97, "\u0626\u062c|\u0626\u062d|\u0626\u062e|\u0626\u0645|\u0626\u0647|\u0628\u062c"),
    (0xFC9D, "\u0628\u062d|\u0628\u062e|\u0628\u0645|\u0628\u0647|\u062a\u062c|\u062a\u062d"),
    (0xFCA3, "\u062a\u062e|\u062a\u0645|\u062a\u0647|\u062b\u0645|\u062c\u062d|\u062c\u0645"),
    (0xFCA9, "\u062d\u062c|\u062d\u0645|\u062e\u062c|\u062e\u0645|\u0633\u062c|\u0633\u062d"),
    (0xFCAF, "\u0633\u062e|\u0633\u0645|\u0635\u062d|\u0635\u062e|\u0635\u0645|\u0636\u062c"),
    (0xFCB5, "\u0636\u062d|\u0636\u062e|\u0636\u0645|\u0637\u062d|\u0638\u0645|\u0639\u062c"),
    (0xFCBB, "\u0639\u0645|\u063a\u062c|\u063a\u0645|\u0641\u062c|\u0641\u062d|\u0641\u062e"),
    (0xFCC1, "\u0641\u0645|\u0642\u062d|\u0642\u0645|\u0643\u062c|\u0643\u062d|\u0643\u062e"),
    (0xFCC7, "\u0643\u0644|\u0643\u0645|\u0644\u062c|\u0644\u062d|\u0644\u062e|\u0644\u0645"),
    (0xFCCD, "\u0644\u0647|\u0645\u062c|\u0645\u062d|\u0645\u062e|\u0645\u0645|\u0646\u062c"),
    (0xFCD3, "\u0646\u062d|\u0646\u062e|\u0646\u0645|\u0646\u0647|\u0647\u062c|\u0647\u0645"),
    (0xFCD9, "\u0647\u0670|\u064a\u062c|\u064a\u062d|\u064a\u062e|\u064a\u0645|\u064a\u0647"),
    (0xFCDF, "\u0626\u0645|\u0626\u0647|\u0628\u0645|\u0628\u0647|\u062a\u0645|\u062a\u0647"),
    (0xFCE5, "\u062b\u0645|\u062b\u0647|\u0633\u0645|\u0633\u0647|\u0634\u0645|\u0634\u0647"),
    (0xFCEB, "\u0643\u0644|\u0643\u0645|\u0644\u0645|\u0646\u0645|\u0646\u0647|\u064a\u0645"),
    (0xFCF1, "\u064a\u0647|\u0640\u064e\u0651|\u0640\u064f\u0651|\u0640\u0650\u0651"),
    (0xFCF5, "\u0637\u0649|\u0637\u064a|\u0639\u0649|\u0639\u064a|\u063a\u0649|\u063a\u064a"),
    (0xFCFB, "\u0633\u0649|\u0633\u064a|\u0634\u0649|\u0634\u064a|\u062d\u0649|\u062d\u064a"),
    (0xFD01, "\u062c\u0649|\u062c\u064a|\u062e\u0649|\u062e\u064a|\u0635\u0649|\u0635\u064a"),
    (0xFD07, "\u0636\u0649|\u0636\u064a|\u0634\u062c|\u0634\u062d|\u0634\u062e|\u0634\u0645"),
    (0xFD0D, "\u0634\u0631|\u0633\u0631|\u0635\u0631|\u0636\u0631|\u0637\u0649|\u0637\u064a"),
    (0xFD13, "\u0639\u0649|\u0639\u064a|\u063a\u0649|\u063a\u064a|\u0633\u0649|\u0633\u064a"),
    (0xFD19, "\u0634\u0649|\u0634\u064a|\u062d\u0649|\u062d\u064a|\u062c\u0649|\u062c\u064a"),
    (0xFD1F, "\u062e\u0649|\u062e\u064a|\u0635\u0649|\u0635\u064a|\u0636\u0649|\u0636\u064a"),
    (0xFD25, "\u0634\u062c|\u0634\u062d|\u0634\u062e|\u0634\u0645|\u0634\u0631|\u0633\u0631"),
    (0xFD2B, "\u0635\u0631|\u0636\u0631|\u0634\u062c|\u0634\u062d|\u0634\u062e|\u0634\u0645"),
    (0xFD31, "\u0633\u0647|\u0634\u0647|\u0637\u0645|\u0633\u062c|\u0633\u062d|\u0633\u062e"),
    (0xFD37, "\u0634\u062c|\u0634\u062d|\u0634\u062e|\u0637\u0645|\u0638\u0645|\u0627\u064b"),
    (0xFD3D, "\u0627\u064b"),
    (0xFD50, "\u062a\u062c\u0645|\u062a\u062d\u062c|\u062a\u062d\u062c|\u062a\u062d\u0645"),
    (0xFD54, "\u062a\u062e\u0645|\u062a\u0645\u062c|\u062a\u0645\u062d|\u062a\u0645\u062e"),
    (0xFD58, "\u062c\u0645\u062d|\u062c\u0645\u062d|\u062d\u0645\u064a|\u062d\u0645\u0649"),
    (0xFD5C, "\u0633\u062d\u062c|\u0633\u062c\u062d|\u0633\u062c\u0649|\u0633\u0645\u062d"),
    (0xFD60, "\u0633\u0645\u062d|\u0633\u0645\u062c|\u0633\u0645\u0645|\u0633\u0645\u0645"),
    (0xFD64, "\u0635\u062d\u062d|\u0635\u062d\u062d|\u0635\u0645\u0645|\u0634\u062d\u0645"),
    (0xFD68, "\u0634\u062d\u0645|\u0634\u062c\u064a|\u0634\u0645\u062e|\u0634\u0645\u062e"),
    (0xFD6C, "\u0634\u0645\u0645|\u0634\u0645\u0645|\u0636\u062d\u0649|\u0636\u062e\u0645"),
    (0xFD70, "\u0636\u062e\u0645|\u0637\u0645\u062d|\u0637\u0645\u062d|\u0637\u0645\u0645"),
    (0xFD74, "\u0637\u0645\u064a|\u0639\u062c\u0645|\u0639\u0645\u0645|\u0639\u0645\u0645"),
    (0xFD78, "\u0639\u0645\u0649|\u063a\u0645\u0645|\u063a\u0645\u064a|\u063a\u0645\u0649"),
    (0xFD7C, "\u0641\u062e\u0645|\u0641\u062e\u0645|\u0642\u0645\u062d|\u0642\u0645\u0645"),
    (0xFD80, "\u0644\u062d\u0645|\u0644\u062d\u064a|\u0644\u062d\u0649|\u0644\u062c\u062c"),
    (0xFD84, "\u0644\u062c\u062c|\u0644\u062e\u0645|\u0644\u062e\u0645|\u0644\u0645\u062d"),
    (0xFD88, "\u0644\u0645\u062d|\u0645\u062d\u062c|\u0645\u062d\u0645|\u0645\u062d\u064a"),
    (0xFD8C, "\u0645\u062c\u062d|\u0645\u062c\u0645|\u0645\u062e\u062c|\u0645\u062e\u0645|﶐|﶑"),
    (0xFD92, "\u0645\u062c\u062e|\u0647\u0645\u062c|\u0647\u0645\u0645|\u0646\u062d\u0645"),
    (0xFD96, "\u0646\u062d\u0649|\u0646\u062c\u0645|\u0646\u062c\u0645|\u0646\u062c\u0649"),
    (0xFD9A, "\u0646\u0645\u064a|\u0646\u0645\u0649|\u064a\u0645\u0645|\u064a\u0645\u0645"),
    (0xFD9E, "\u0628\u062e\u064a|\u062a\u062c\u064a|\u062a\u062c\u0649|\u062a\u062e\u064a"),
    (0xFDA2, "\u062a\u062e\u0649|\u062a\u0645\u064a|\u062a\u0645\u0649|\u062c\u0645\u064a"),
    (0xFDA6, "\u062c\u062d\u0649|\u062c\u0645\u0649|\u0633\u062e\u0649|\u0635\u062d\u064a"),
    (0xFDAA, "\u0634\u062d\u064a|\u0636\u062d\u064a|\u0644\u062c\u064a|\u0644\u0645\u064a"),
    (0xFDAE, "\u064a\u062d\u064a|\u064a\u062c\u064a|\u064a\u0645\u064a|\u0645\u0645\u064a"),
    (0xFDB2, "\u0642\u0645\u064a|\u0646\u062d\u064a|\u0642\u0645\u062d|\u0644\u062d\u0645"),
    (0xFDB6, "\u0639\u0645\u064a|\u0643\u0645\u064a|\u0646\u062c\u062d|\u0645\u062e\u064a"),
    (0xFDBA, "\u0644\u062c\u0645|\u0643\u0645\u0645|\u0644\u062c\u0645|\u0646\u062c\u062d"),
    (0xFDBE, "\u062c\u062d\u064a|\u062d\u062c\u064a|\u0645\u062c\u064a|\u0641\u0645\u064a"),
    (0xFDC2, "\u0628\u062d\u064a|\u0643\u0645\u0645|\u0639\u062c\u0645|\u0635\u0645\u0645"),
    (0xFDC6, "\u0633\u062e\u064a|\u0646\u062c\u064a"),
    (0xFDF0, "\u0635\u0644\u06d2|\u0642\u0644\u06d2|\u0627\u0644\u0644\u0647"),
    (0xFDF3, "\u0627\u0643\u0628\u0631|\u0645\u062d\u0645\u062f|\u0635\u0644\u0639\u0645"),
    (0xFDF6, "\u0631\u0633\u0648\u0644|\u0639\u0644\u064a\u0647|\u0648\u0633\u0644\u0645"),
    (0xFDF9, "\u0635\u0644\u0649"),
    (0xFDFA,
      "\u0635\u0644\u0649 \u0627\u0644\u0644\u0647 \u0639\u0644\u064a\u0647 " ++
        "\u0648\u0633\u0644\u0645"),
    (0xFDFB, "\u062c\u0644 \u062c\u0644\u0627\u0644\u0647|\u0631\u06cc\u0627\u0644"),
    (0xFE10, ",|、"), (0xFE13, ":|;|!|?|〖|〗"), (0xFE31, "—|–|_|_|(|)|\x7b|\x7d|〔|〕|【|】|《|》|〈|〉"),
    (0xFE47, "[|]| \u0305| \u0305| \u0305| \u0305|_|_|_|,|、"),
    (0xFE54, ";|:|?|!|—|(|)|\x7b|\x7d|〔|〕|#|&|*|+|-|<|>|="), (0xFE68, "\\|$|%|@"),
    (0xFE70, " \u064b|\u0640\u064b| \u064c|\ufe73| \u064d"),
    (0xFE76, " \u064e|\u0640\u064e| \u064f|\u0640\u064f| \u0650|\u0640\u0650| \u0651"),
    (0xFE7D, "\u0640\u0651| \u0652|\u0640\u0652|\u0621|\u0622|\u0622|\u0623|\u0623|\u0624"),
    (0xFE86, "\u0624|\u0625|\u0625|\u0626|\u0626|\u0626|\u0626|\u0627|\u0627|\u0628|\u0628"),
    (0xFE91, "\u0628|\u0628|\u0629|\u0629|\u062a|\u062a|\u062a|\u062a|\u062b|\u062b|\u062b"),
    (0xFE9C, "\u062b|\u062c|\u062c|\u062c|\u062c|\u062d|\u062d|\u062d|\u062d|\u062e|\u062e"),
    (0xFEA7, "\u062e|\u062e|\u062f|\u062f|\u0630|\u0630|\u0631|\u0631|\u0632|\u0632|\u0633"),
    (0xFEB2, "\u0633|\u0633|\u0633|\u0634|\u0634|\u0634|\u0634|\u0635|\u0635|\u0635|\u0635"),
    (0xFEBD, "\u0636|\u0636|\u0636|\u0636|\u0637|\u0637|\u0637|\u0637|\u0638|\u0638|\u0638"),
    (0xFEC8, "\u0638|\u0639|\u0639|\u0639|\u0639|\u063a|\u063a|\u063a|\u063a|\u0641|\u0641"),
    (0xFED3, "\u0641|\u0641|\u0642|\u0642|\u0642|\u0642|\u0643|\u0643|\u0643|\u0643|\u0644"),
    (0xFEDE, "\u0644|\u0644|\u0644|\u0645|\u0645|\u0645|\u0645|\u0646|\u0646|\u0646|\u0646"),
    (0xFEE9, "\u0647|\u0647|\u0647|\u0647|\u0648|\u0648|\u0649|\u0649|\u064a|\u064a|\u064a"),
    (0xFEF4, "\u064a|\u0644\u0622|\u0644\u0622|\u0644\u0623|\u0644\u0623|\u0644\u0625"),
    (0xFEFA, "\u0644\u0625|\u0644\u0627|\u0644\u0627"),
    (0xFF5F, "⦅|⦆|.|「|」|、|・|ヲ|ァ|ィ|ゥ|ェ|ォ|ャ|ュ|ョ|ッ|\u30fc|ア|イ|ウ|エ|オ|カ|キ|ク|ケ|コ|サ|シ|ス|セ|ソ|タ|チ|ツ|テ|ト"),
    (0xFF8B, "ヒ|フ|ヘ|ホ|マ|ミ|ム|メ|モ|ヤ|ユ"), (0xFF9C, "ワ|ン|\u3099|\u309a"), (0xFFA1, "ᄀ|ᄁ|ᆪ|ᄂ|ᆬ|ᆭ|ᄃ|ᄄ|ᄅ"),
    (0xFFB0, "ᄚ|ᄆ|ᄇ|ᄈ|ᄡ"), (0xFFDA, "ᅳ|ᅴ|ᅵ"), (0xFFE0, "¢|£|¬| \u0304|¦|¥|₩"),
    (0xFFE8, "│|←|↑|→|↓|■|○"), (0x10781, "\u02d0|\u02d1|æ|ʙ|ɓ"),
    (0x10787, "ʣ|ꭦ|ʥ|ʤ|ɖ|ɗ|ᶑ|ɘ|ɞ|ʩ|ɤ|ɢ|ɠ|ʛ|ħ|ʜ|ɧ|ʄ|ʪ|ʫ|ɬ|𝼄|ꞎ|ɮ|𝼅|ʎ|𝼆|ø|ɶ|ɷ|q|ɺ|𝼈|ɽ|ɾ|ʀ|ʨ|ʦ|ꭧ|ʧ"),
    (0x107AF, "ʈ|ⱱ"), (0x107B2, "ʏ|ʡ|ʢ|ʘ|ǀ|ǁ|ǂ|𝼊|𝼞"), (0x1D15E, "𝅗𝅥|𝅘𝅥|𝅘𝅥𝅮|𝅘𝅥𝅯|𝅘𝅥𝅰|𝅘𝅥𝅱|𝅘𝅥𝅲"),
    (0x1D1BB, "𝆹𝅥|𝆺𝅥|𝆹𝅥𝅮|𝆺𝅥𝅮|𝆹𝅥𝅯|𝆺𝅥𝅯"), (0x1D49C, "a"), (0x1D49E, "c|d"), (0x1D4A2, "g"),
    (0x1D4A5, "j|k"), (0x1D4BB, "f"), (0x1D4BD, "h"), (0x1D504, "a|b"), (0x1D538, "a|b"),
    (0x1D546, "o"), (0x1D6A4, "ı|ȷ"), (0x1D6B9, "θ"), (0x1D6C1, "∇"), (0x1D6D3, "σ"),
    (0x1D6DB, "∂|ε|θ|κ|φ|ρ|π"), (0x1D6F3, "θ"), (0x1D6FB, "∇"), (0x1D70D, "σ"),
    (0x1D715, "∂|ε|θ|κ|φ|ρ|π"), (0x1D72D, "θ"), (0x1D735, "∇"), (0x1D747, "σ"),
    (0x1D74F, "∂|ε|θ|κ|φ|ρ|π"), (0x1D767, "θ"), (0x1D76F, "∇"), (0x1D781, "σ"),
    (0x1D789, "∂|ε|θ|κ|φ|ρ|π"), (0x1D7A1, "θ"), (0x1D7A9, "∇"), (0x1D7BB, "σ"),
    (0x1D7C3, "∂|ε|θ|κ|φ|ρ|π|ϝ|ϝ"), (0x1E039, "к|л|м"), (0x1E047, "ы|э|ю|ꚉ|ә|і|ј|ө|ү|ӏ"),
    (0x1E05A, "к|л|о|п|с"), (0x1E065, "ъ|ы|ґ|і|ѕ|џ|ҫ|ꙑ|ұ"),
    (0x1EE00, "\u0627|\u0628|\u062c|\u062f"),
    (0x1EE05, "\u0648|\u0632|\u062d|\u0637|\u064a|\u0643|\u0644|\u0645|\u0646|\u0633|\u0639"),
    (0x1EE10, "\u0641|\u0635|\u0642|\u0631|\u0634|\u062a|\u062b|\u062e|\u0630|\u0636|\u0638"),
    (0x1EE1B, "\u063a|\u066e|\u06ba|\u06a1|\u066f"), (0x1EE21, "\u0628|\u062c"),
    (0x1EE24, "\u0647"), (0x1EE27, "\u062d"),
    (0x1EE29, "\u064a|\u0643|\u0644|\u0645|\u0646|\u0633|\u0639|\u0641|\u0635|\u0642"),
    (0x1EE34, "\u0634|\u062a|\u062b|\u062e"), (0x1EE39, "\u0636"), (0x1EE3B, "\u063a"),
    (0x1EE42, "\u062c"), (0x1EE47, "\u062d"), (0x1EE49, "\u064a"), (0x1EE4B, "\u0644"),
    (0x1EE4D, "\u0646|\u0633|\u0639"), (0x1EE51, "\u0635|\u0642"), (0x1EE54, "\u0634"),
    (0x1EE57, "\u062e"), (0x1EE59, "\u0636"), (0x1EE5B, "\u063a"), (0x1EE5D, "\u06ba"),
    (0x1EE5F, "\u066f"), (0x1EE61, "\u0628|\u062c"), (0x1EE64, "\u0647"),
    (0x1EE67, "\u062d|\u0637|\u064a|\u0643"),
    (0x1EE6C, "\u0645|\u0646|\u0633|\u0639|\u0641|\u0635|\u0642"),
    (0x1EE74, "\u0634|\u062a|\u062b|\u062e"), (0x1EE79, "\u0636|\u0638|\u063a|\u066e"),
    (0x1EE7E, "\u06a1"),
    (0x1EE80, "\u0627|\u0628|\u062c|\u062f|\u0647|\u0648|\u0632|\u062d|\u0637|\u064a"),
    (0x1EE8B, "\u0644|\u0645|\u0646|\u0633|\u0639|\u0641|\u0635|\u0642|\u0631|\u0634|\u062a"),
    (0x1EE96, "\u062b|\u062e|\u0630|\u0636|\u0638|\u063a"), (0x1EEA1, "\u0628|\u062c|\u062f"),
    (0x1EEA5, "\u0648|\u0632|\u062d|\u0637|\u064a"),
    (0x1EEAB, "\u0644|\u0645|\u0646|\u0633|\u0639|\u0641|\u0635|\u0642|\u0631|\u0634|\u062a"),
    (0x1EEB6, "\u062b|\u062e|\u0630|\u0636|\u0638|\u063a"),
    (0x1F101, "0,|1,|2,|3,|4,|5,|6,|7,|8,|9,|🄋|🄌|🄍|🄎|🄏|(a)|(b)|(c)|(d)|(e)|(f)|(g)|(h)|(i)|(j)"),
    (0x1F11A, "(k)|(l)|(m)|(n)|(o)|(p)|(q)|(r)|(s)|(t)|(u)|(v)|(w)|(x)|(y)|(z)|〔s〕|c|r|cd|wz"),
    (0x1F14A, "hv|mv|sd|ss|ppv|wc"), (0x1F16A, "mc|md|mr"), (0x1F190, "dj"), (0x1F200, "ほか|ココ|サ"),
    (0x1F210, "手|字|双|デ|二|多|解|天|交|映|無|料|前|後|再|新|初|終|生|販|声|吹|演|投|捕|一|三|遊|左|中|右|指|走|打|禁|空|合|満|有|月"),
    (0x1F238, "申|割|営|配"), (0x1F240, "〔本〕|〔三〕|〔二〕|〔安〕|〔点〕|〔打〕|〔盗〕|〔勝〕|〔敗〕"), (0x1F250, "得|可"),
    (0x2F800, "丽|丸|乁|𠄢|你|侮|侻|倂|偺|備|僧|像|㒞|𠘺|免|兔|兤|具|𠔜|㒹|內|再|𠕋|冗|冤|仌|冬|况|𩇟|凵|刃|㓟|刻|剆|割|剷|㔕|勇|勉|勤"),
    (0x2F828, "勺|包|匆|北|卉|卑|博|即|卽|卿|卿|卿|𠨬|灰|及|叟|𠭣|叫|叱|吆|咞|吸|呈|周|咢|哶|唐|啓|啣|善|善|喙|喫|喳|嗂|圖|嘆|圗|噑|噴"),
    (0x2F850, "切|壮|城|埴|堍|型|堲|報|墬|𡓤|売|壷|夆|多|夢|奢|𡚨|𡛪|姬|娛|娧|姘|婦|㛮|㛼|嬈|嬾|嬾|𡧈|寃|寘|寧|寳|𡬘|寿|将|当|尢|㞁|屠"),
    (0x2F878, "屮|峀|岍|𡷤|嵃|𡷦|嵮|嵫|嵼|巡|巢|㠯|巽|帨|帽|幩|㡢|𢆃|㡼|庰|庳|庶|廊|𪎒|廾|𢌱|𢌱|舁|弢|弢|㣇|𣊸|𦇚|形|彫|㣣|徚|忍|志|忹"),
    (0x2F8A0, "悁|㤺|㤜|悔|𢛔|惇|慈|慌|慎|慌|慺|憎|憲|憤|憯|懞|懲|懶|成|戛|扝|抱|拔|捐|𢬌|挽|拼|捨|掃|揤|𢯱|搢|揅|掩|㨮|摩|摾|撝|摷|㩬"),
    (0x2F8C8, "敏|敬|𣀊|旣|書|晉|㬙|暑|㬈|㫤|冒|冕|最|暜|肭|䏙|朗|望|朡|杞|杓|𣏃|㭉|柺|枅|桒|梅|𣑭|梎|栟|椔|㮝|楂|榣|槪|檨|𣚣|櫛|㰘|次"),
    (0x2F8F0, "𣢧|歔|㱎|歲|殟|殺|殻|𣪍|𡴋|𣫺|汎|𣲼|沿|泍|汧|洖|派|海|流|浩|浸|涅|𣴞|洴|港|湮|㴳|滋|滇|𣻑|淹|潮|𣽞|𣾎|濆|瀹|瀞|瀛|㶖|灊"),
    (0x2F918, "災|灷|炭|𠔥|煅|𤉣|熜|𤎫|爨|爵|牐|𤘈|犀|犕|𤜵|𤠔|獺|王|㺬|玥|㺸|㺸|瑇|瑜|瑱|璅|瓊|㼛|甤|𤰶|甾|𤲒|異|𢆟|瘐|𤾡|𤾸|𥁄|㿼|䀈"),
    (0x2F940, "直|𥃳|𥃲|𥄙|𥄳|眞|真|真|睊|䀹|瞋|䁆|䂖|𥐝|硎|碌|磌|䃣|𥘦|祖|𥚚|𥛅|福|秫|䄯|穀|穊|穏|𥥼|𥪧|𥪧|竮|䈂|𥮫|篆|築|䈧|𥲀|糒|䊠"),
    (0x2F968, "糨|糣|紀|𥾆|絣|䌁|緇|縂|繅|䌴|𦈨|𦉇|䍙|𦋙|罺|𦌾|羕|翺|者|𦓚|𦔣|聠|𦖨|聰|𣍟|䏕|育|脃|䐋|脾|媵|𦞧|𦞵|𣎓|𣎜|舁|舄|辞|䑫|芑"),
    (0x2F990, "芋|芝|劳|花|芳|芽|苦|𦬼|若|茝|荣|莭|茣|莽|菧|著|荓|菊|菌|菜|𦰶|𦵫|𦳕|䔫|蓱|蓳|蔖|𧏊|蕤|𦼬|䕝|䕡|𦾱|𧃒|䕫|虐|虜|虧|虩|蚩"),
    (0x2F9B8, "蚈|蜎|蛢|蝹|蜨|蝫|螆|䗗|蟡|蠁|䗹|衠|衣|𧙧|裗|裞|䘵|裺|㒻|𧢮|𧥦|䚾|䛇|誠|諭|變|豕|𧲨|貫|賁|贛|起|𧼯|𠠄|跋|趼|跰|𠣞|軔|輸"),
    (0x2F9E0, "𨗒|𨗭|邔|郱|鄑|𨜮|鄛|鈸|鋗|鋘|鉼|鏹|鐕|𨯺|開|䦕|閷|𨵷|䧦|雃|嶲|霣|𩅅|𩈚|䩮|䩶|韠|𩐊|䪲|𩒖|頋|頋|頩|𩖶|飢|䬳|餩|馧|駂|駾"),
    (0x2FA08, "䯎|𩬰|鬒|鱀|鳽|䳎|䳭|鵧|𪃎|䳸|𪄅|𪈎|𪊑|麻|䵖|黹|黾|鼅|鼏|鼖|鼻|𪘀")]

/-- What the character stands for by `listedForms`. -/
def listedForm? (c : Char) : Option (List Char) :=
  listedForms.findSome? fun (first, forms) =>
    if first ≤ c.toNat then (splitAll (· = '|') forms.toList)[c.toNat - first]? else none

/-- What a printable character beyond ASCII stands for. -/
def form (c : Char) : List Char :=
  match listedForm? c with
  | some cs => cs
  | none =>
    match shiftedRuns.find? (·.holds c.toNat) with
    | some run => [Char.ofNat (run.target + (c.toNat - run.first))]
    | none => lowerChar c

/-- What a character of a name stands for, if it may be in one. -/
def fold? (c : Char) : Option (List Char) :=
  if c.toNat < 0x80 then some [c.toLower]
  else if silentRanges.covers c then some []
  else if c = joiner ∨ c = nonJoiner then some [c]
  else if printableRanges.covers c && !refusedRanges.covers c then some (form c)
  else none

theorem fold?_ascii {c : Char} (h : c.toNat < 0x80) : fold? c = some [c.toLower] := by
  simp [fold?, h]

end CredentialRotation.Url
