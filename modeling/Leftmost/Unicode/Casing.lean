import Leftmost.Unicode.Description

/-!
# Leftmost.Unicode.Casing

Upper and lower case: which characters have case, and which change when a text is written in another
one.
-/

namespace Leftmost.Unicode

open Description

/-- Lower case beyond letters of category Ll. -/
def otherLowercase : Description := .ranges [
  (0xaa, 0xaa), (0xba, 0xba), (0x2b0, 0x2b8), (0x2c0, 0x2c1), (0x2e0, 0x2e4), (0x345, 0x345),
  (0x37a, 0x37a), (0x10fc, 0x10fc), (0x1d2c, 0x1d6a), (0x1d78, 0x1d78), (0x1d9b, 0x1dbf),
  (0x2071, 0x2071), (0x207f, 0x207f), (0x2090, 0x209c), (0x2170, 0x217f), (0x24d0, 0x24e9),
  (0x2c7c, 0x2c7d), (0xa69c, 0xa69d), (0xa770, 0xa770), (0xa7f2, 0xa7f4), (0xa7f8, 0xa7f9),
  (0xab5c, 0xab5f), (0xab69, 0xab69), (0x10780, 0x10780), (0x10783, 0x10785), (0x10787, 0x107b0),
  (0x107b2, 0x107ba), (0x1e030, 0x1e06d)]

/-- Upper case beyond letters of category Lu. -/
def otherUppercase : Description := .ranges [
  (0x2160, 0x216f), (0x24b6, 0x24cf), (0x1f130, 0x1f149), (0x1f150, 0x1f169), (0x1f170, 0x1f189)]

def lowercase : Description := .anyOf [.categories [.ll], otherLowercase]

def uppercase : Description := .anyOf [.categories [.lu], otherUppercase]

def cased : Description := .anyOf [lowercase, uppercase, .categories [.lt]]

/-- Characters that may stand within a word without ending it. -/
def caseIgnorable : Description :=
  .anyOf [.categories [.mn, .me, .cf, .lm, .sk], .ranges [
    (0x27, 0x27), (0x2e, 0x2e), (0x3a, 0x3a), (0xb7, 0xb7), (0x387, 0x387), (0x55f, 0x55f),
    (0x5f4, 0x5f4), (0x2018, 0x2019), (0x2024, 0x2024), (0x2027, 0x2027), (0xfe13, 0xfe13),
    (0xfe52, 0xfe52), (0xfe55, 0xfe55), (0xff07, 0xff07), (0xff0e, 0xff0e), (0xff1a, 0xff1a)]]

/-- Upper case without a lower case form. -/
def unpairedUppercase : Description := .ranges [
  (0x3d2, 0x3d4), (0x2102, 0x2102), (0x2107, 0x2107), (0x210b, 0x210d), (0x2110, 0x2112),
  (0x2115, 0x2115), (0x2119, 0x211d), (0x2124, 0x2124), (0x2128, 0x2128), (0x212c, 0x212d),
  (0x2130, 0x2131), (0x2133, 0x2133), (0x213e, 0x213f), (0x2145, 0x2145), (0x1d400, 0x1d419),
  (0x1d434, 0x1d44d), (0x1d468, 0x1d481), (0x1d49c, 0x1d49c), (0x1d49e, 0x1d49f),
  (0x1d4a2, 0x1d4a2), (0x1d4a5, 0x1d4a6), (0x1d4a9, 0x1d4ac), (0x1d4ae, 0x1d4b5),
  (0x1d4d0, 0x1d4e9), (0x1d504, 0x1d505), (0x1d507, 0x1d50a), (0x1d50d, 0x1d514),
  (0x1d516, 0x1d51c), (0x1d538, 0x1d539), (0x1d53b, 0x1d53e), (0x1d540, 0x1d544),
  (0x1d546, 0x1d546), (0x1d54a, 0x1d550), (0x1d56c, 0x1d585), (0x1d5a0, 0x1d5b9),
  (0x1d5d4, 0x1d5ed), (0x1d608, 0x1d621), (0x1d63c, 0x1d655), (0x1d670, 0x1d689),
  (0x1d6a8, 0x1d6c0), (0x1d6e2, 0x1d6fa), (0x1d71c, 0x1d734), (0x1d756, 0x1d76e),
  (0x1d790, 0x1d7a8), (0x1d7ca, 0x1d7ca), (0x1f130, 0x1f149), (0x1f150, 0x1f169),
  (0x1f170, 0x1f189)]

/-- Lower case without an upper case form. -/
def unpairedLowercase : Description := .ranges [
  (0xaa, 0xaa), (0xba, 0xba), (0x138, 0x138), (0x18d, 0x18d), (0x1aa, 0x1ab), (0x1ba, 0x1ba),
  (0x1be, 0x1be), (0x221, 0x221), (0x234, 0x239), (0x255, 0x255), (0x258, 0x258), (0x25a, 0x25a),
  (0x25d, 0x25f), (0x262, 0x262), (0x267, 0x267), (0x26d, 0x26e), (0x270, 0x270), (0x273, 0x274),
  (0x276, 0x27c), (0x27e, 0x27f), (0x281, 0x281), (0x284, 0x286), (0x28d, 0x291), (0x293, 0x293),
  (0x295, 0x29c), (0x29f, 0x2b8), (0x2c0, 0x2c1), (0x2e0, 0x2e4), (0x37a, 0x37a), (0x3fc, 0x3fc),
  (0x560, 0x560), (0x588, 0x588), (0x10fc, 0x10fc), (0x1d00, 0x1d78), (0x1d7a, 0x1d7c),
  (0x1d7e, 0x1d8d), (0x1d8f, 0x1dbf), (0x1e9c, 0x1e9d), (0x1e9f, 0x1e9f), (0x2071, 0x2071),
  (0x207f, 0x207f), (0x2090, 0x209c), (0x210a, 0x210a), (0x210e, 0x210f), (0x2113, 0x2113),
  (0x212f, 0x212f), (0x2134, 0x2134), (0x2139, 0x2139), (0x213c, 0x213d), (0x2146, 0x2149),
  (0x2c71, 0x2c71), (0x2c74, 0x2c74), (0x2c77, 0x2c7d), (0x2ce4, 0x2ce4), (0xa69c, 0xa69d),
  (0xa730, 0xa731), (0xa770, 0xa778), (0xa78e, 0xa78e), (0xa795, 0xa795), (0xa7af, 0xa7af),
  (0xa7d3, 0xa7d3), (0xa7d5, 0xa7d5), (0xa7f2, 0xa7f4), (0xa7f8, 0xa7fa), (0xab30, 0xab52),
  (0xab54, 0xab5a), (0xab5c, 0xab69), (0x10780, 0x10780), (0x10783, 0x10785), (0x10787, 0x107b0),
  (0x107b2, 0x107ba), (0x1d41a, 0x1d433), (0x1d44e, 0x1d454), (0x1d456, 0x1d467),
  (0x1d482, 0x1d49b), (0x1d4b6, 0x1d4b9), (0x1d4bb, 0x1d4bb), (0x1d4bd, 0x1d4c3),
  (0x1d4c5, 0x1d4cf), (0x1d4ea, 0x1d503), (0x1d51e, 0x1d537), (0x1d552, 0x1d56b),
  (0x1d586, 0x1d59f), (0x1d5ba, 0x1d5d3), (0x1d5ee, 0x1d607), (0x1d622, 0x1d63b),
  (0x1d656, 0x1d66f), (0x1d68a, 0x1d6a5), (0x1d6c2, 0x1d6da), (0x1d6dc, 0x1d6e1),
  (0x1d6fc, 0x1d714), (0x1d716, 0x1d71b), (0x1d736, 0x1d74e), (0x1d750, 0x1d755),
  (0x1d770, 0x1d788), (0x1d78a, 0x1d78f), (0x1d7aa, 0x1d7c2), (0x1d7c4, 0x1d7c9),
  (0x1d7cb, 0x1d7cb), (0x1df00, 0x1df09), (0x1df0b, 0x1df1e), (0x1df25, 0x1df2a),
  (0x1e030, 0x1e06d)]

def changesWhenLowercased : Description :=
  .without (.anyOf [uppercase, .categories [.lt]]) unpairedUppercase

def changesWhenUppercased : Description :=
  .without (.anyOf [lowercase, .categories [.lt]]) unpairedLowercase

/-- Digraphs in upper case change at the front of a word; what is in title case and the letters of
Georgian do not. -/
def changesWhenTitlecased : Description :=
  .without (.anyOf [changesWhenUppercased, .characters [0x1c4, 0x1c7, 0x1ca, 0x1f1]])
    (.anyOf [.categories [.lt], .ranges [(0x10d0, 0x10fa), (0x10fd, 0x10ff)]])

/-- Lower case that case folding changes, because it has a more common variant. -/
def foldedLowercase : Description := .ranges [
  (0xb5, 0xb5), (0xdf, 0xdf), (0x149, 0x149), (0x17f, 0x17f), (0x345, 0x345), (0x3c2, 0x3c2),
  (0x3d0, 0x3d1), (0x3d5, 0x3d6), (0x3f0, 0x3f1), (0x3f5, 0x3f5), (0x587, 0x587), (0x13f8, 0x13fd),
  (0x1c80, 0x1c88), (0x1e9a, 0x1e9b), (0x1f80, 0x1f87), (0x1f90, 0x1f97), (0x1fa0, 0x1fa7),
  (0x1fb2, 0x1fb4), (0x1fb7, 0x1fb7), (0x1fc2, 0x1fc4), (0x1fc7, 0x1fc7), (0x1ff2, 0x1ff4),
  (0x1ff7, 0x1ff7), (0xab70, 0xabbf), (0xfb00, 0xfb06), (0xfb13, 0xfb17)]

/-- Letters of Cherokee fold to upper case. -/
def changesWhenCasefolded : Description :=
  .without (.anyOf [changesWhenLowercased, foldedLowercase]) (.ranges [(0x13a0, 0x13f5)])

def changesWhenCasemapped : Description :=
  .anyOf [changesWhenLowercased, changesWhenUppercased, changesWhenTitlecased]

/-- Letters whose dot disappears under an accent. -/
def softDotted : Description := .ranges [
  (0x69, 0x6a), (0x12f, 0x12f), (0x249, 0x249), (0x268, 0x268), (0x29d, 0x29d), (0x2b2, 0x2b2),
  (0x3f3, 0x3f3), (0x456, 0x456), (0x458, 0x458), (0x1d62, 0x1d62), (0x1d96, 0x1d96),
  (0x1da4, 0x1da4), (0x1da8, 0x1da8), (0x1e2d, 0x1e2d), (0x1ecb, 0x1ecb), (0x2071, 0x2071),
  (0x2148, 0x2149), (0x2c7c, 0x2c7c), (0x1d422, 0x1d423), (0x1d456, 0x1d457), (0x1d48a, 0x1d48b),
  (0x1d4be, 0x1d4bf), (0x1d4f2, 0x1d4f3), (0x1d526, 0x1d527), (0x1d55a, 0x1d55b),
  (0x1d58e, 0x1d58f), (0x1d5c2, 0x1d5c3), (0x1d5f6, 0x1d5f7), (0x1d62a, 0x1d62b),
  (0x1d65e, 0x1d65f), (0x1d692, 0x1d693), (0x1df1a, 0x1df1a), (0x1e04c, 0x1e04d),
  (0x1e068, 0x1e068)]

end Leftmost.Unicode
