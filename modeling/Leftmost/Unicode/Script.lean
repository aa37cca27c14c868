import Leftmost.Unicode.Category

/-!
# Leftmost.Unicode.Script

Characters by script. A character has one script; characters that several scripts have in common, and
marks that take on the script of their neighbour, are of a script of their own kind. Some of these are
also listed with the scripts they are used in.

Names are written without hyphens and in lower case; the first name of a script is its code.
-/

namespace Leftmost.Unicode

/-- The names of each script and the ranges it lies in; only what is assigned counts. -/
def scripts : List (List String × List (Nat × Nat)) := [
  (["adlm", "adlam"], [(0x1e900, 0x1e95f)]),
  (["ahom"], [(0x11700, 0x11746)]),
  (["hluw", "anatolianhieroglyphs"], [(0x14400, 0x14646)]),
  (["arab", "arabic"], [
    (0x600, 0x604), (0x606, 0x60b), (0x60d, 0x61a), (0x61c, 0x61e), (0x620, 0x63f),
    (0x641, 0x64a), (0x656, 0x66f), (0x671, 0x6dc), (0x6de, 0x6ff), (0x750, 0x77f),
    (0x870, 0x8e1), (0x8e3, 0x8ff), (0xfb50, 0xfd3d), (0xfd40, 0xfdff), (0xfe70, 0xfefc),
    (0x10e60, 0x10e7e), (0x10ec2, 0x10eff), (0x1ee00, 0x1eef1)]),
  (["armn", "armenian"], [(0x531, 0x58f), (0xfb13, 0xfb17)]),
  (["avst", "avestan"], [(0x10b00, 0x10b3f)]),
  (["bali", "balinese"], [(0x1b00, 0x1b7f)]),
  (["bamu", "bamum"], [(0xa6a0, 0xa6f7), (0x16800, 0x16a38)]),
  (["bass", "bassavah"], [(0x16ad0, 0x16af5)]),
  (["batk", "batak"], [(0x1bc0, 0x1bff)]),
  (["beng", "bengali"], [(0x980, 0x9fe)]),
  (["bhks", "bhaiksuki"], [(0x11c00, 0x11c6c)]),
  (["bopo", "bopomofo"], [(0x2ea, 0x2eb), (0x3105, 0x312f), (0x31a0, 0x31bf)]),
  (["brah", "brahmi"], [(0x11000, 0x1107f)]),
  (["brai", "braille"], [(0x2800, 0x28ff)]),
  (["bugi", "buginese"], [(0x1a00, 0x1a1f)]),
  (["buhd", "buhid"], [(0x1740, 0x1753)]),
  (["cans", "canadianaboriginal"], [(0x1400, 0x167f), (0x18b0, 0x18f5), (0x11ab0, 0x11abf)]),
  (["cari", "carian"], [(0x102a0, 0x102d0)]),
  (["aghb", "caucasianalbanian"], [(0x10530, 0x1056f)]),
  (["cakm", "chakma"], [(0x11100, 0x11147)]),
  (["cham"], [(0xaa00, 0xaa5f)]),
  (["cher", "cherokee"], [(0x13a0, 0x13fd), (0xab70, 0xabbf)]),
  (["chrs", "chorasmian"], [(0x10fb0, 0x10fcb)]),
  (["zyyy", "common"], [
    (0x0, 0x40), (0x5b, 0x60), (0x7b, 0xa9), (0xab, 0xb9), (0xbb, 0xbf), (0xd7, 0xd7),
    (0xf7, 0xf7), (0x2b9, 0x2df), (0x2e5, 0x2e9), (0x2ec, 0x2ff), (0x374, 0x374), (0x37e, 0x37e),
    (0x385, 0x385), (0x387, 0x387), (0x605, 0x605), (0x60c, 0x60c), (0x61b, 0x61b),
    (0x61f, 0x61f), (0x640, 0x640), (0x6dd, 0x6dd), (0x8e2, 0x8e2), (0x964, 0x965),
    (0xe3f, 0xe3f), (0xfd5, 0xfd8), (0x10fb, 0x10fb), (0x16eb, 0x16ed), (0x1735, 0x1736),
    (0x1802, 0x1803), (0x1805, 0x1805), (0x1cd3, 0x1cd3), (0x1ce1, 0x1ce1), (0x1ce9, 0x1cec),
    (0x1cee, 0x1cf3), (0x1cf5, 0x1cf7), (0x1cfa, 0x1cfa), (0x2000, 0x200b), (0x200e, 0x2070),
    (0x2074, 0x207e), (0x2080, 0x208e), (0x20a0, 0x20c0), (0x2100, 0x2125), (0x2127, 0x2129),
    (0x212c, 0x2131), (0x2133, 0x214d), (0x214f, 0x215f), (0x2189, 0x27ff), (0x2900, 0x2bff),
    (0x2e00, 0x2e5d), (0x2ff0, 0x3004), (0x3006, 0x3006), (0x3008, 0x3020), (0x3030, 0x3037),
    (0x303c, 0x303f), (0x309b, 0x309c), (0x30a0, 0x30a0), (0x30fb, 0x30fc), (0x3190, 0x319f),
    (0x31c0, 0x31ef), (0x3220, 0x325f), (0x327f, 0x32cf), (0x32ff, 0x32ff), (0x3358, 0x33ff),
    (0x4dc0, 0x4dff), (0xa700, 0xa721), (0xa788, 0xa78a), (0xa830, 0xa839), (0xa92e, 0xa92e),
    (0xa9cf, 0xa9cf), (0xab5b, 0xab5b), (0xab6a, 0xab6b), (0xfd3e, 0xfd3f), (0xfe10, 0xfe19),
    (0xfe30, 0xfe6b), (0xfeff, 0xff20), (0xff3b, 0xff40), (0xff5b, 0xff65), (0xff70, 0xff70),
    (0xff9e, 0xff9f), (0xffe0, 0xfffd), (0x10100, 0x1013f), (0x10190, 0x1019c),
    (0x101d0, 0x101fc), (0x102e1, 0x102fb), (0x1bca0, 0x1ceb3), (0x1cf50, 0x1d166),
    (0x1d16a, 0x1d17a), (0x1d183, 0x1d184), (0x1d18c, 0x1d1a9), (0x1d1ae, 0x1d1ea),
    (0x1d2c0, 0x1d7ff), (0x1ec71, 0x1ed3d), (0x1f000, 0x1f1ff), (0x1f201, 0x1fbf9),
    (0xe0001, 0xe007f)]),
  (["copt", "coptic", "qaac"], [(0x3e2, 0x3ef), (0x2c80, 0x2cff)]),
  (["xsux", "cuneiform"], [(0x12000, 0x12543)]),
  (["cprt", "cypriot"], [(0x10800, 0x1083f)]),
  (["cpmn", "cyprominoan"], [(0x12f90, 0x12ff2)]),
  (["cyrl", "cyrillic"], [
    (0x400, 0x484), (0x487, 0x52f), (0x1c80, 0x1c8a), (0x1d2b, 0x1d2b), (0x1d78, 0x1d78),
    (0x2de0, 0x2dff), (0xa640, 0xa69f), (0xfe2e, 0xfe2f), (0x1e030, 0x1e08f)]),
  (["dsrt", "deseret"], [(0x10400, 0x1044f)]),
  (["deva", "devanagari"], [
    (0x900, 0x950), (0x955, 0x963), (0x966, 0x97f), (0xa8e0, 0xa8ff), (0x11b00, 0x11b09)]),
  (["diak", "divesakuru"], [(0x11900, 0x11959)]),
  (["dogr", "dogra"], [(0x11800, 0x1183b)]),
  (["dupl", "duployan"], [(0x1bc00, 0x1bc9f)]),
  (["egyp", "egyptianhieroglyphs"], [(0x13000, 0x143fa)]),
  (["elba", "elbasan"], [(0x10500, 0x10527)]),
  (["elym", "elymaic"], [(0x10fe0, 0x10ff6)]),
  (["ethi", "ethiopic"], [
    (0x1200, 0x1399), (0x2d80, 0x2dde), (0xab01, 0xab2e), (0x1e7e0, 0x1e7fe)]),
  (["gara", "garay"], [(0x10d40, 0x10d8f)]),
  (["geor", "georgian"], [(0x10a0, 0x10fa), (0x10fc, 0x10ff), (0x1c90, 0x1cbf), (0x2d00, 0x2d2d)]),
  (["glag", "glagolitic"], [(0x2c00, 0x2c5f), (0x1e000, 0x1e02a)]),
  (["goth", "gothic"], [(0x10330, 0x1034a)]),
  (["gran", "grantha"], [(0x11300, 0x11339), (0x1133c, 0x11374)]),
  (["grek", "greek"], [
    (0x370, 0x373), (0x375, 0x37d), (0x37f, 0x384), (0x386, 0x386), (0x388, 0x3e1),
    (0x3f0, 0x3ff), (0x1d26, 0x1d2a), (0x1d5d, 0x1d61), (0x1d66, 0x1d6a), (0x1dbf, 0x1dbf),
    (0x1f00, 0x1ffe), (0x2126, 0x2126), (0xab65, 0xab65), (0x10140, 0x1018e), (0x101a0, 0x101a0),
    (0x1d200, 0x1d245)]),
  (["gujr", "gujarati"], [(0xa81, 0xaff)]),
  (["gong", "gunjalagondi"], [(0x11d60, 0x11da9)]),
  (["guru", "gurmukhi"], [(0xa01, 0xa76)]),
  (["gukh", "gurungkhema"], [(0x16100, 0x16139)]),
  (["hani", "han"], [
    (0x2e80, 0x2fd5), (0x3005, 0x3005), (0x3007, 0x3007), (0x3021, 0x3029), (0x3038, 0x303b),
    (0x3400, 0x4dbf), (0x4e00, 0x9fff), (0xf900, 0xfad9), (0x16fe2, 0x16fe3), (0x16ff0, 0x16ff1),
    (0x20000, 0x323af)]),
  (["hang", "hangul"], [
    (0x1100, 0x11ff), (0x302e, 0x302f), (0x3131, 0x318e), (0x3200, 0x321e), (0x3260, 0x327e),
    (0xa960, 0xa97c), (0xac00, 0xd7fb), (0xffa0, 0xffdc)]),
  (["rohg", "hanifirohingya"], [(0x10d00, 0x10d39)]),
  (["hano", "hanunoo"], [(0x1720, 0x1734)]),
  (["hatr", "hatran"], [(0x108e0, 0x108ff)]),
  (["hebr", "hebrew"], [(0x591, 0x5f4), (0xfb1d, 0xfb4f)]),
  (["hira", "hiragana"], [
    (0x3041, 0x3096), (0x309d, 0x309f), (0x1b001, 0x1b11f), (0x1b132, 0x1b152),
    (0x1f200, 0x1f200)]),
  (["armi", "imperialaramaic"], [(0x10840, 0x1085f)]),
  (["zinh", "inherited", "qaai"], [
    (0x300, 0x36f), (0x485, 0x486), (0x64b, 0x655), (0x670, 0x670), (0x951, 0x954),
    (0x1ab0, 0x1ace), (0x1cd0, 0x1cd2), (0x1cd4, 0x1ce0), (0x1ce2, 0x1ce8), (0x1ced, 0x1ced),
    (0x1cf4, 0x1cf4), (0x1cf8, 0x1cf9), (0x1dc0, 0x1dff), (0x200c, 0x200d), (0x20d0, 0x20f0),
    (0x302a, 0x302d), (0x3099, 0x309a), (0xfe00, 0xfe0f), (0xfe20, 0xfe2d), (0x101fd, 0x101fd),
    (0x102e0, 0x102e0), (0x1133b, 0x1133b), (0x1cf00, 0x1cf46), (0x1d167, 0x1d169),
    (0x1d17b, 0x1d182), (0x1d185, 0x1d18b), (0x1d1aa, 0x1d1ad), (0xe0100, 0xe01ef)]),
  (["phli", "inscriptionalpahlavi"], [(0x10b60, 0x10b7f)]),
  (["prti", "inscriptionalparthian"], [(0x10b40, 0x10b5f)]),
  (["java", "javanese"], [(0xa980, 0xa9cd), (0xa9d0, 0xa9df)]),
  (["kthi", "kaithi"], [(0x11080, 0x110cd)]),
  (["knda", "kannada"], [(0xc80, 0xcf3)]),
  (["kana", "katakana"], [
    (0x30a1, 0x30fa), (0x30fd, 0x30ff), (0x31f0, 0x31ff), (0x32d0, 0x32fe), (0x3300, 0x3357),
    (0xff66, 0xff6f), (0xff71, 0xff9d), (0x1aff0, 0x1b000), (0x1b120, 0x1b122),
    (0x1b155, 0x1b167)]),
  (["kawi"], [(0x11f00, 0x11f5a)]),
  (["kali", "kayahli"], [(0xa900, 0xa92d), (0xa92f, 0xa92f)]),
  (["khar", "kharoshthi"], [(0x10a00, 0x10a58)]),
  (["kits", "khitansmallscript"], [(0x16fe4, 0x16fe4), (0x18b00, 0x18cff)]),
  (["khmr", "khmer"], [(0x1780, 0x17f9), (0x19e0, 0x19ff)]),
  (["khoj", "khojki"], [(0x11200, 0x11241)]),
  (["sind", "khudawadi"], [(0x112b0, 0x112f9)]),
  (["krai", "kiratrai"], [(0x16d40, 0x16d79)]),
  (["laoo", "lao"], [(0xe81, 0xedf)]),
  (["latn", "latin"], [
    (0x41, 0x5a), (0x61, 0x7a), (0xaa, 0xaa), (0xba, 0xba), (0xc0, 0xd6), (0xd8, 0xf6),
    (0xf8, 0x2b8), (0x2e0, 0x2e4), (0x1d00, 0x1d25), (0x1d2c, 0x1d5c), (0x1d62, 0x1d65),
    (0x1d6b, 0x1d77), (0x1d79, 0x1dbe), (0x1e00, 0x1eff), (0x2071, 0x2071), (0x207f, 0x207f),
    (0x2090, 0x209c), (0x212a, 0x212b), (0x2132, 0x2132), (0x214e, 0x214e), (0x2160, 0x2188),
    (0x2c60, 0x2c7f), (0xa722, 0xa787), (0xa78b, 0xa7ff), (0xab30, 0xab5a), (0xab5c, 0xab64),
    (0xab66, 0xab69), (0xfb00, 0xfb06), (0xff21, 0xff3a), (0xff41, 0xff5a), (0x10780, 0x107ba),
    (0x1df00, 0x1df2a)]),
  (["lepc", "lepcha"], [(0x1c00, 0x1c4f)]),
  (["limb", "limbu"], [(0x1900, 0x194f)]),
  (["lina", "lineara"], [(0x10600, 0x10767)]),
  (["linb", "linearb"], [(0x10000, 0x100fa)]),
  (["lisu"], [(0xa4d0, 0xa4ff), (0x11fb0, 0x11fb0)]),
  (["lyci", "lycian"], [(0x10280, 0x1029c)]),
  (["lydi", "lydian"], [(0x10920, 0x1093f)]),
  (["mahj", "mahajani"], [(0x11150, 0x11176)]),
  (["maka", "makasar"], [(0x11ee0, 0x11ef8)]),
  (["mlym", "malayalam"], [(0xd00, 0xd7f)]),
  (["mand", "mandaic"], [(0x840, 0x85e)]),
  (["mani", "manichaean"], [(0x10ac0, 0x10af6)]),
  (["marc", "marchen"], [(0x11c70, 0x11cb6)]),
  (["gonm", "masaramgondi"], [(0x11d00, 0x11d59)]),
  (["medf", "medefaidrin"], [(0x16e40, 0x16e9a)]),
  (["mtei", "meeteimayek"], [(0xaae0, 0xaaf6), (0xabc0, 0xabf9)]),
  (["mend", "mendekikakui"], [(0x1e800, 0x1e8d6)]),
  (["merc", "meroiticcursive"], [(0x109a0, 0x109ff)]),
  (["mero", "meroitichieroglyphs"], [(0x10980, 0x1099f)]),
  (["plrd", "miao"], [(0x16f00, 0x16f9f)]),
  (["modi"], [(0x11600, 0x11659)]),
  (["mong", "mongolian"], [
    (0x1800, 0x1801), (0x1804, 0x1804), (0x1806, 0x18aa), (0x11660, 0x1166c)]),
  (["mroo", "mro"], [(0x16a40, 0x16a6f)]),
  (["mult", "multani"], [(0x11280, 0x112a9)]),
  (["mymr", "myanmar"], [
    (0x1000, 0x109f), (0xa9e0, 0xa9fe), (0xaa60, 0xaa7f), (0x116d0, 0x116e3)]),
  (["nbat", "nabataean"], [(0x10880, 0x108af)]),
  (["nagm", "nagmundari"], [(0x1e4d0, 0x1e4f9)]),
  (["nand", "nandinagari"], [(0x119a0, 0x119e4)]),
  (["newa"], [(0x11400, 0x11461)]),
  (["talu", "newtailue"], [(0x1980, 0x19df)]),
  (["nkoo", "nko"], [(0x7c0, 0x7ff)]),
  (["nshu", "nushu"], [(0x16fe1, 0x16fe1), (0x1b170, 0x1b2fb)]),
  (["hmnp", "nyiakengpuachuehmong"], [(0x1e100, 0x1e14f)]),
  (["ogam", "ogham"], [(0x1680, 0x169c)]),
  (["olck", "olchiki"], [(0x1c50, 0x1c7f)]),
  (["hung", "oldhungarian"], [(0x10c80, 0x10cff)]),
  (["ital", "olditalic"], [(0x10300, 0x1032f)]),
  (["narb", "oldnortharabian"], [(0x10a80, 0x10a9f)]),
  (["perm", "oldpermic"], [(0x10350, 0x1037a)]),
  (["xpeo", "oldpersian"], [(0x103a0, 0x103d5)]),
  (["sogo", "oldsogdian"], [(0x10f00, 0x10f27)]),
  (["sarb", "oldsoutharabian"], [(0x10a60, 0x10a7f)]),
  (["orkh", "oldturkic"], [(0x10c00, 0x10c48)]),
  (["ougr", "olduyghur"], [(0x10f70, 0x10f89)]),
  (["onao", "olonal"], [(0x1e5d0, 0x1e5ff)]),
  (["orya", "oriya"], [(0xb01, 0xb77)]),
  (["osge", "osage"], [(0x104b0, 0x104fb)]),
  (["osma", "osmanya"], [(0x10480, 0x104a9)]),
  (["hmng", "pahawhhmong"], [(0x16b00, 0x16b8f)]),
  (["palm", "palmyrene"], [(0x10860, 0x1087f)]),
  (["pauc", "paucinhau"], [(0x11ac0, 0x11af8)]),
  (["phag", "phagspa"], [(0xa840, 0xa877)]),
  (["phnx", "phoenician"], [(0x10900, 0x1091f)]),
  (["phlp", "psalterpahlavi"], [(0x10b80, 0x10baf)]),
  (["rjng", "rejang"], [(0xa930, 0xa95f)]),
  (["runr", "runic"], [(0x16a0, 0x16ea), (0x16ee, 0x16f8)]),
  (["samr", "samaritan"], [(0x800, 0x83e)]),
  (["saur", "saurashtra"], [(0xa880, 0xa8d9)]),
  (["shrd", "sharada"], [(0x11180, 0x111df)]),
  (["shaw", "shavian"], [(0x10450, 0x1047f)]),
  (["sidd", "siddham"], [(0x11580, 0x115dd)]),
  (["sgnw", "signwriting"], [(0x1d800, 0x1daaf)]),
  (["sinh", "sinhala"], [(0xd81, 0xdf4), (0x111e1, 0x111f4)]),
  (["sogd", "sogdian"], [(0x10f30, 0x10f59)]),
  (["sora", "sorasompeng"], [(0x110d0, 0x110f9)]),
  (["soyo", "soyombo"], [(0x11a50, 0x11aa2)]),
  (["sund", "sundanese"], [(0x1b80, 0x1bbf), (0x1cc0, 0x1cc7)]),
  (["sunu", "sunuwar"], [(0x11bc0, 0x11bf9)]),
  (["sylo", "sylotinagri"], [(0xa800, 0xa82c)]),
  (["syrc", "syriac"], [(0x700, 0x74f), (0x860, 0x86a)]),
  (["tglg", "tagalog"], [(0x1700, 0x171f)]),
  (["tagb", "tagbanwa"], [(0x1760, 0x1773)]),
  (["tale", "taile"], [(0x1950, 0x1974)]),
  (["lana", "taitham"], [(0x1a20, 0x1aad)]),
  (["tavt", "taiviet"], [(0xaa80, 0xaadf)]),
  (["takr", "takri"], [(0x11680, 0x116c9)]),
  (["taml", "tamil"], [(0xb82, 0xbfa), (0x11fc0, 0x11fff)]),
  (["tnsa", "tangsa"], [(0x16a70, 0x16ac9)]),
  (["tang", "tangut"], [(0x16fe0, 0x16fe0), (0x17000, 0x18aff), (0x18d00, 0x18d08)]),
  (["telu", "telugu"], [(0xc00, 0xc7f)]),
  (["thaa", "thaana"], [(0x780, 0x7b1)]),
  (["thai"], [(0xe01, 0xe3a), (0xe40, 0xe5b)]),
  (["tibt", "tibetan"], [(0xf00, 0xfd4), (0xfd9, 0xfda)]),
  (["tfng", "tifinagh"], [(0x2d30, 0x2d7f)]),
  (["tirh", "tirhuta"], [(0x11480, 0x114d9)]),
  (["todr", "todhri"], [(0x105c0, 0x105f3)]),
  (["toto"], [(0x1e290, 0x1e2ae)]),
  (["tutg", "tulutigalari"], [(0x11380, 0x113e2)]),
  (["ugar", "ugaritic"], [(0x10380, 0x1039f)]),
  (["vaii", "vai"], [(0xa500, 0xa62b)]),
  (["vith", "vithkuqi"], [(0x10570, 0x105bc)]),
  (["wcho", "wancho"], [(0x1e2c0, 0x1e2ff)]),
  (["wara", "warangciti"], [(0x118a0, 0x118ff)]),
  (["yezi", "yezidi"], [(0x10e80, 0x10eb1)]),
  (["yiii", "yi"], [(0xa000, 0xa4c6)]),
  (["zanb", "zanabazarsquare"], [(0x11a00, 0x11a47)])]

/-- The characters that are used in several scripts, by their codes. -/
def sharedCharacters : List (Nat × Nat × List String) := [
  (0xb7, 0xb7, [
    "avst", "cari", "copt", "dupl", "elba", "geor", "glag", "gong", "goth", "grek", "hani",
    "latn", "lydi", "mahj", "perm", "shaw"]),
  (0x2bc, 0x2bc, ["beng", "cyrl", "deva", "latn", "lisu", "thai", "toto"]),
  (0x2c7, 0x2c7, ["bopo", "latn"]),
  (0x2c9, 0x2cb, ["bopo", "latn"]),
  (0x2cd, 0x2cd, ["latn", "lisu"]),
  (0x2d7, 0x2d7, ["latn", "thai"]),
  (0x2d9, 0x2d9, ["bopo", "latn"]),
  (0x300, 0x300, ["cher", "copt", "cyrl", "grek", "latn", "perm", "sunu", "tale"]),
  (0x301, 0x301, ["cher", "cyrl", "grek", "latn", "osge", "sunu", "tale", "todr"]),
  (0x302, 0x302, ["cher", "cyrl", "latn", "tfng"]),
  (0x303, 0x303, ["glag", "latn", "sunu", "syrc", "thai"]),
  (0x304, 0x304, [
    "aghb", "cher", "copt", "cyrl", "goth", "grek", "latn", "osge", "syrc", "tfng", "todr"]),
  (0x305, 0x305, ["copt", "elba", "glag", "goth", "kana", "latn"]),
  (0x306, 0x306, ["cyrl", "grek", "latn", "perm", "tfng"]),
  (0x307, 0x307, ["copt", "dupl", "hebr", "latn", "perm", "syrc", "tale", "tfng", "todr"]),
  (0x308, 0x308, [
    "armn", "cyrl", "dupl", "goth", "grek", "hebr", "latn", "perm", "syrc", "tale", "tfng"]),
  (0x309, 0x309, ["latn", "tfng"]),
  (0x30a, 0x30a, ["dupl", "latn", "syrc"]),
  (0x30b, 0x30b, ["cher", "cyrl", "latn", "osge"]),
  (0x30c, 0x30c, ["cher", "latn", "tale"]),
  (0x30d, 0x30d, ["latn", "sunu"]),
  (0x30e, 0x30e, ["ethi", "latn"]),
  (0x310, 0x310, ["latn", "sunu"]),
  (0x311, 0x311, ["cyrl", "latn", "todr"]),
  (0x313, 0x313, ["grek", "latn", "perm", "todr"]),
  (0x323, 0x323, ["cher", "dupl", "kana", "latn", "syrc", "tfng"]),
  (0x324, 0x324, ["cher", "dupl", "latn", "syrc"]),
  (0x325, 0x325, ["latn", "syrc"]),
  (0x32d, 0x32d, ["latn", "sunu", "syrc"]),
  (0x32e, 0x32e, ["latn", "syrc"]),
  (0x330, 0x330, ["cher", "latn", "syrc"]),
  (0x331, 0x331, ["aghb", "cher", "goth", "latn", "sunu", "syrc", "thai"]),
  (0x342, 0x342, ["grek"]),
  (0x345, 0x345, ["grek"]),
  (0x358, 0x358, ["latn", "osge"]),
  (0x35e, 0x35e, ["aghb", "latn", "todr"]),
  (0x363, 0x36f, ["latn"]),
  (0x374, 0x375, ["copt", "grek"]),
  (0x483, 0x483, ["cyrl", "perm"]),
  (0x484, 0x484, ["cyrl", "glag"]),
  (0x485, 0x486, ["cyrl", "latn"]),
  (0x487, 0x487, ["cyrl", "glag"]),
  (0x589, 0x589, ["armn", "geor", "glag"]),
  (0x60c, 0x60c, ["arab", "gara", "nkoo", "rohg", "syrc", "thaa", "yezi"]),
  (0x61b, 0x61b, ["arab", "gara", "nkoo", "rohg", "syrc", "thaa", "yezi"]),
  (0x61c, 0x61c, ["arab", "syrc", "thaa"]),
  (0x61f, 0x61f, ["adlm", "arab", "gara", "nkoo", "rohg", "syrc", "thaa", "yezi"]),
  (0x640, 0x640, ["adlm", "arab", "mand", "mani", "ougr", "phlp", "rohg", "sogd", "syrc"]),
  (0x64b, 0x655, ["arab", "syrc"]),
  (0x660, 0x669, ["arab", "thaa", "yezi"]),
  (0x670, 0x670, ["arab", "syrc"]),
  (0x6d4, 0x6d4, ["arab", "rohg"]),
  (0x951, 0x951, [
    "beng", "deva", "gran", "gujr", "guru", "knda", "latn", "mlym", "nand", "newa", "orya",
    "shrd", "taml", "telu", "tirh"]),
  (0x952, 0x952, [
    "beng", "deva", "gran", "gujr", "guru", "knda", "latn", "mlym", "newa", "orya", "taml",
    "telu", "tirh"]),
  (0x964, 0x964, [
    "beng", "deva", "dogr", "gong", "gonm", "gran", "gujr", "guru", "knda", "mahj", "mlym",
    "nand", "onao", "orya", "sind", "sinh", "sylo", "takr", "taml", "telu", "tirh"]),
  (0x965, 0x965, [
    "beng", "deva", "dogr", "gong", "gonm", "gran", "gujr", "gukh", "guru", "knda", "limb",
    "mahj", "mlym", "nand", "onao", "orya", "sind", "sinh", "sylo", "takr", "taml", "telu",
    "tirh"]),
  (0x966, 0x96f, ["deva", "dogr", "kthi", "mahj"]),
  (0x9e6, 0x9ef, ["beng", "cakm", "sylo"]),
  (0xa66, 0xa6f, ["guru", "mult"]),
  (0xae6, 0xaef, ["gujr", "khoj"]),
  (0xbe6, 0xbf3, ["gran", "taml"]),
  (0xce6, 0xcef, ["knda", "nand", "tutg"]),
  (0x1040, 0x1049, ["cakm", "mymr", "tale"]),
  (0x10fb, 0x10fb, ["geor", "glag", "latn"]),
  (0x16eb, 0x16ed, ["runr"]),
  (0x1735, 0x1736, ["buhd", "hano", "tagb", "tglg"]),
  (0x1802, 0x1803, ["mong", "phag"]),
  (0x1805, 0x1805, ["mong", "phag"]),
  (0x1cd0, 0x1cd0, ["beng", "deva", "gran", "knda"]),
  (0x1cd1, 0x1cd1, ["deva"]),
  (0x1cd2, 0x1cd2, ["beng", "deva", "gran", "knda"]),
  (0x1cd3, 0x1cd3, ["deva", "gran", "knda"]),
  (0x1cd4, 0x1cd4, ["deva"]),
  (0x1cd5, 0x1cd5, ["beng", "deva", "newa", "telu", "tirh"]),
  (0x1cd6, 0x1cd6, ["beng", "deva", "telu"]),
  (0x1cd7, 0x1cd7, ["deva", "newa", "shrd"]),
  (0x1cd8, 0x1cd8, ["beng", "deva", "newa", "telu"]),
  (0x1cd9, 0x1cd9, ["deva", "shrd"]),
  (0x1cda, 0x1cda, ["deva", "knda", "mlym", "orya", "taml", "telu"]),
  (0x1cdb, 0x1cdb, ["deva"]),
  (0x1cdc, 0x1cdd, ["deva", "shrd"]),
  (0x1cde, 0x1cdf, ["deva"]),
  (0x1ce0, 0x1ce0, ["deva", "shrd"]),
  (0x1ce1, 0x1ce1, ["beng", "deva"]),
  (0x1ce2, 0x1ce2, ["deva", "newa", "tirh"]),
  (0x1ce3, 0x1ce8, ["deva"]),
  (0x1ce9, 0x1ce9, ["deva", "nand", "newa"]),
  (0x1cea, 0x1cea, ["beng", "deva", "shrd"]),
  (0x1ceb, 0x1ceb, ["deva", "newa"]),
  (0x1cec, 0x1cec, ["deva"]),
  (0x1ced, 0x1ced, ["beng", "deva", "newa", "shrd"]),
  (0x1cee, 0x1cf1, ["deva"]),
  (0x1cf2, 0x1cf2, [
    "beng", "deva", "gran", "knda", "mlym", "nand", "orya", "sinh", "telu", "tirh", "tutg"]),
  (0x1cf3, 0x1cf3, ["deva", "gran"]),
  (0x1cf4, 0x1cf4, ["deva", "gran", "knda", "tutg"]),
  (0x1cf5, 0x1cf6, ["beng", "deva"]),
  (0x1cf7, 0x1cf7, ["beng"]),
  (0x1cf8, 0x1cf9, ["deva", "gran"]),
  (0x1cfa, 0x1cfa, ["nand"]),
  (0x1dc0, 0x1dc1, ["grek"]),
  (0x1df8, 0x1df8, ["cyrl", "latn", "syrc"]),
  (0x1dfa, 0x1dfa, ["syrc"]),
  (0x202f, 0x202f, ["latn", "mong", "phag"]),
  (0x204f, 0x204f, ["adlm", "arab"]),
  (0x205a, 0x205a, ["cari", "geor", "glag", "hung", "lyci", "orkh"]),
  (0x205d, 0x205d, ["cari", "grek", "hung", "mero"]),
  (0x20f0, 0x20f0, ["deva", "gran", "latn"]),
  (0x2e17, 0x2e17, ["copt", "latn"]),
  (0x2e30, 0x2e30, ["avst", "orkh"]),
  (0x2e31, 0x2e31, ["avst", "cari", "geor", "hung", "kthi", "lydi", "samr"]),
  (0x2e3c, 0x2e3c, ["dupl"]),
  (0x2e41, 0x2e41, ["adlm", "arab", "hung"]),
  (0x2e43, 0x2e43, ["cyrl", "glag"]),
  (0x2ff0, 0x2fff, ["hani", "tang"]),
  (0x3001, 0x3001, ["bopo", "hang", "hani", "hira", "kana", "mong", "yiii"]),
  (0x3002, 0x3002, ["bopo", "hang", "hani", "hira", "kana", "mong", "phag", "yiii"]),
  (0x3003, 0x3003, ["bopo", "hang", "hani", "hira", "kana"]),
  (0x3006, 0x3006, ["hani"]),
  (0x3008, 0x3009, ["bopo", "hang", "hani", "hira", "kana", "mong", "tibt", "yiii"]),
  (0x300a, 0x300b, ["bopo", "hang", "hani", "hira", "kana", "lisu", "mong", "tibt", "yiii"]),
  (0x300c, 0x3011, ["bopo", "hang", "hani", "hira", "kana", "yiii"]),
  (0x3013, 0x3013, ["bopo", "hang", "hani", "hira", "kana"]),
  (0x3014, 0x301b, ["bopo", "hang", "hani", "hira", "kana", "yiii"]),
  (0x301c, 0x301f, ["bopo", "hang", "hani", "hira", "kana"]),
  (0x302a, 0x302d, ["bopo", "hani"]),
  (0x3030, 0x3030, ["bopo", "hang", "hani", "hira", "kana"]),
  (0x3031, 0x3035, ["hira", "kana"]),
  (0x3037, 0x3037, ["bopo", "hang", "hani", "hira", "kana"]),
  (0x303c, 0x303d, ["hani", "hira", "kana"]),
  (0x303e, 0x303f, ["hani"]),
  (0x3099, 0x309c, ["hira", "kana"]),
  (0x30a0, 0x30a0, ["hira", "kana"]),
  (0x30fb, 0x30fb, ["bopo", "hang", "hani", "hira", "kana", "yiii"]),
  (0x30fc, 0x30fc, ["hira", "kana"]),
  (0x3190, 0x319f, ["hani"]),
  (0x31c0, 0x31e5, ["hani"]),
  (0x31ef, 0x31ef, ["hani", "tang"]),
  (0x3220, 0x3247, ["hani"]),
  (0x3280, 0x32b0, ["hani"]),
  (0x32c0, 0x32cb, ["hani"]),
  (0x32ff, 0x32ff, ["hani"]),
  (0x3358, 0x3370, ["hani"]),
  (0x337b, 0x337f, ["hani"]),
  (0x33e0, 0x33fe, ["hani"]),
  (0xa66f, 0xa66f, ["cyrl", "glag"]),
  (0xa700, 0xa707, ["hani", "latn"]),
  (0xa830, 0xa832, [
    "deva", "dogr", "gujr", "guru", "khoj", "knda", "kthi", "mahj", "mlym", "modi", "nand",
    "shrd", "sind", "takr", "tirh", "tutg"]),
  (0xa833, 0xa835, [
    "deva", "dogr", "gujr", "guru", "khoj", "knda", "kthi", "mahj", "modi", "nand", "shrd",
    "sind", "takr", "tirh", "tutg"]),
  (0xa836, 0xa837, [
    "deva", "dogr", "gujr", "guru", "khoj", "kthi", "mahj", "modi", "sind", "takr", "tirh"]),
  (0xa838, 0xa838, [
    "deva", "dogr", "gujr", "guru", "khoj", "kthi", "mahj", "modi", "shrd", "sind", "takr",
    "tirh"]),
  (0xa839, 0xa839, [
    "deva", "dogr", "gujr", "guru", "khoj", "kthi", "mahj", "modi", "sind", "takr", "tirh"]),
  (0xa8f1, 0xa8f1, ["beng", "deva", "tutg"]),
  (0xa8f3, 0xa8f3, ["deva", "taml"]),
  (0xa92e, 0xa92e, ["kali", "latn", "mymr"]),
  (0xa9cf, 0xa9cf, ["bugi", "java"]),
  (0xfd3e, 0xfd3f, ["arab", "nkoo"]),
  (0xfdf2, 0xfdf2, ["arab", "thaa"]),
  (0xfdfd, 0xfdfd, ["arab", "thaa"]),
  (0xfe45, 0xfe46, ["bopo", "hang", "hani", "hira", "kana"]),
  (0xff61, 0xff65, ["bopo", "hang", "hani", "hira", "kana", "yiii"]),
  (0xff70, 0xff70, ["hira", "kana"]),
  (0xff9e, 0xff9f, ["hira", "kana"]),
  (0x10100, 0x10101, ["cpmn", "cprt", "linb"]),
  (0x10102, 0x10102, ["cprt", "linb"]),
  (0x10107, 0x10133, ["cprt", "lina", "linb"]),
  (0x10137, 0x1013f, ["cprt", "linb"]),
  (0x102e0, 0x102fb, ["arab", "copt"]),
  (0x10af2, 0x10af2, ["mani", "ougr"]),
  (0x11301, 0x11301, ["gran", "taml"]),
  (0x11303, 0x11303, ["gran", "taml"]),
  (0x1133b, 0x1133c, ["gran", "taml"]),
  (0x11fd0, 0x11fd1, ["gran", "taml"]),
  (0x11fd3, 0x11fd3, ["gran", "taml"]),
  (0x1bca0, 0x1bca3, ["dupl"]),
  (0x1d360, 0x1d371, ["hani"]),
  (0x1f250, 0x1f251, ["hani"])]

/-- The code and the characters of the script of a name. -/
def script? (name : String) : Option (String × RangeSet) := do
  let (names, ranges) ← scripts.find? (·.1.contains name)
  return (← names.head?, (RangeSet.ofList ranges).inter assigned)

/-- The characters of a script. -/
def scriptSet? (name : String) : Option RangeSet := (script? name).map (·.2)

/-- The characters that are used in a script. -/
def usedInScript? (name : String) : Option RangeSet := do
  let (code, own) ← script? name
  let shared : RangeSet := .ofList (sharedCharacters.map fun (first, last, _) => (first, last))
  let used := sharedCharacters.filterMap fun (first, last, codes) =>
    if codes.contains code then some (first, last) else none
  return (own.diff shared).union (.ofList used)

end Leftmost.Unicode
