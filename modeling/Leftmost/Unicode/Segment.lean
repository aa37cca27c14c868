import Leftmost.Unicode.Casing
import Leftmost.Unicode.Alphabetic
import Leftmost.Unicode.Emoji
import Leftmost.Unicode.Format
import Leftmost.Unicode.Ideograph
import Leftmost.Unicode.Number
import Leftmost.Unicode.Punctuation

/-!
# Leftmost.Unicode.Segment

What a character does to the limits between visible characters, words and sentences. For each of the
three kinds of segments a character has one role; the roles are listed by their names.
-/

namespace Leftmost.Unicode

open Description

/-- Sets by their names. -/
abbrev Named := List (List String × Description)

def carriageReturn : Description := characters [0x0d]

def lineFeed : Description := characters [0x0a]

/-! ## Visible characters -/

/-- Format characters that belong to a number or a word and not to the space between them. -/
def numberSign : Description :=
  .ranges [(0x600, 0x605), (0x6dd, 0x6dd), (0x890, 0x891), (0x8e2, 0x8e2), (0x110bd, 0x110bd),
    (0x110cd, 0x110cd)]

def abbreviationSign : Description := characters [0x70f]

def clusterExtending : Description := .anyOf [graphemeExtend, emojiModifier]

/-- Marks that take up space of their own. -/
def spacingMark : Description :=
  .without (.anyOf [.categories [.mc], characters [0xe33, 0xeb3]]) (.anyOf [clusterExtending, .ranges [
    (0x102b, 0x102c), (0x1038, 0x1038), (0x1062, 0x1064), (0x1067, 0x106d), (0x1083, 0x1083),
    (0x1087, 0x108c), (0x108f, 0x108f), (0x109a, 0x109c), (0x1a61, 0x1a61), (0x1a63, 0x1a64),
    (0xaa7b, 0xaa7b), (0xaa7d, 0xaa7d), (0x11720, 0x11721)]])

/-- Controls, and whatever else is not shown. -/
def control : Description :=
  .without (.anyOf [.categories [.cc, .cf, .zl, .zp], .both ignorable (.categories [.cn])])
    (.anyOf [carriageReturn, lineFeed, joinControl, prependedMark, clusterExtending])

/-- Syllables of Hangul that end with their vowel: each block of 28 begins with one. -/
def openSyllable : Description := characters ((List.range 399).map fun k => 0xac00 + 28 * k)

def syllable : Description := .ranges [(0xac00, 0xd7a3)]

def clusterRoles : Named := [
  (["cn", "control"], control),
  (["cr"], carriageReturn),
  (["ex", "extend"], .without clusterExtending (characters [0x200d])),
  (["l"], .ranges [(0x1100, 0x115f), (0xa960, 0xa97c)]),
  (["lf"], lineFeed),
  (["lv"], openSyllable),
  (["lvt"], .without syllable openSyllable),
  (["pp", "prepend"], .anyOf [prependedMark, .ranges [
    (0xd4e, 0xd4e), (0x111c2, 0x111c3), (0x113d1, 0x113d1), (0x1193f, 0x1193f), (0x11941, 0x11941),
    (0x11a3a, 0x11a3a), (0x11a84, 0x11a89), (0x11d46, 0x11d46), (0x11f02, 0x11f02)]]),
  (["ri", "regionalindicator"], regionalIndicator),
  (["sm", "spacingmark"], spacingMark),
  (["t"], .ranges [(0x11a8, 0x11ff), (0xd7cb, 0xd7fb)]),
  (["v"], .ranges [(0x1160, 0x11a7), (0x16d63, 0x16d63), (0x16d67, 0x16d6a), (0xd7b0, 0xd7c6)]),
  (["zwj"], characters [0x200d])]

/-! ## Words -/

def wordExtending : Description :=
  .without (.anyOf [clusterExtending, .categories [.mc]]) (characters [0x200d])

def katakana : Description :=
  .anyOf [.script "kana", .ranges [(0x3031, 0x3035), (0x309b, 0x309c), (0x30a0, 0x30a0),
    (0x30fc, 0x30fc), (0xff70, 0xff70)]]

def hebrewLetter : Description := .both (.script "hebr") (.categories [.lo])

/-- Letters of scripts of South East Asia, whose words are not divided by spaces. -/
def undivided : Description := .ranges [
  (0xe01, 0xe3a), (0xe40, 0xe4e), (0xe81, 0xe82), (0xe84, 0xe84), (0xe86, 0xe8a), (0xe8c, 0xea3),
  (0xea5, 0xea5), (0xea7, 0xebd), (0xec0, 0xec4), (0xec6, 0xec6), (0xec8, 0xece), (0xedc, 0xedf),
  (0x1000, 0x103f), (0x1050, 0x108f), (0x109a, 0x109f), (0x1780, 0x17d3), (0x17d7, 0x17d7),
  (0x17dc, 0x17dd), (0x1950, 0x196d), (0x1970, 0x1974), (0x1980, 0x19ab), (0x19b0, 0x19c9),
  (0x19da, 0x19da), (0x19de, 0x19df), (0x1a20, 0x1a5e), (0x1a60, 0x1a7c), (0x1aa0, 0x1aad),
  (0xa9e0, 0xa9ef), (0xa9fa, 0xa9fe), (0xaa60, 0xaac2), (0xaadb, 0xaadf), (0x11700, 0x1171a),
  (0x1171d, 0x1172b), (0x1173a, 0x1173b), (0x1173f, 0x11746)]

/-- Letters of scripts whose words are divided by spaces, and letter-like signs. -/
def dividedLetter : Description :=
  .without (.anyOf [alphabetic, abbreviationSign, .ranges [
      (0x2c2, 0x2c5), (0x2d2, 0x2d7), (0x2de, 0x2df), (0x2e5, 0x2eb), (0x2ed, 0x2ed), (0x2ef, 0x2ff),
      (0x55a, 0x55c), (0x55e, 0x55e), (0x58a, 0x58a), (0x5f3, 0x5f3), (0xa708, 0xa716),
      (0xa720, 0xa721), (0xa789, 0xa78a), (0xab5b, 0xab5b)]])
    (.anyOf [ideographic, katakana, undivided, .script "hira", wordExtending, hebrewLetter])

def digit : Description := .anyOf [.categories [.nd], characters [0x66b], numberSign]

def wordRoles : Named := [
  (["le", "aletter"], dividedLetter),
  (["cr"], carriageReturn),
  (["dq", "doublequote"], characters [0x22]),
  (["extend"], wordExtending),
  (["ex", "extendnumlet"], .anyOf [.categories [.pc], characters [0x202f]]),
  (["fo", "format"],
    .without (.categories [.cf])
      (.anyOf [characters [0x200b, 0x200c, 0x200d], clusterExtending, numberSign, abbreviationSign])),
  (["hl", "hebrewletter"], hebrewLetter),
  (["ka", "katakana"], katakana),
  (["lf"], lineFeed),
  (["ml", "midletter"],
    characters [0x3a, 0xb7, 0x387, 0x55f, 0x5f4, 0x2027, 0xfe13, 0xfe55, 0xff1a]),
  (["mn", "midnum"], characters [
    0x2c, 0x3b, 0x37e, 0x589, 0x60c, 0x60d, 0x66c, 0x7f8, 0x2044, 0xfe10, 0xfe14, 0xfe50, 0xfe54,
    0xff0c, 0xff1b]),
  (["mb", "midnumlet"], characters [0x2e, 0x2018, 0x2019, 0x2024, 0xfe52, 0xff07, 0xff0e]),
  (["nl", "newline"], characters [0x0b, 0x0c, 0x85, 0x2028, 0x2029]),
  (["nu", "numeric"], digit),
  (["ri", "regionalindicator"], regionalIndicator),
  (["sq", "singlequote"], characters [0x27]),
  (["wsegspace"], .without (.categories [.zs]) (characters [0xa0, 0x2007, 0x202f])),
  (["zwj"], characters [0x200d])]

/-! ## Sentences -/

def sentenceExtending : Description :=
  .anyOf [graphemeExtend, .categories [.mc], characters [0x200d]]

/-- Letters of Georgian have case, but sentences do not begin with a capital. -/
def sentenceLower : Description :=
  .without lowercase (.anyOf [graphemeExtend, .ranges [(0x10d0, 0x10fa), (0x10fd, 0x10ff)]])

def sentenceUpper : Description :=
  .without (.anyOf [uppercase, .categories [.lt]]) (.ranges [(0x1c90, 0x1cba), (0x1cbd, 0x1cbf)])

def ambiguousEnd : Description := characters [0x2e, 0x2024, 0xfe52, 0xff0e]

def sentenceEnd : Description := .without sentenceTerminal ambiguousEnd

def sentenceRoles : Named := [
  (["at", "aterm"], ambiguousEnd),
  (["cl", "close"],
    .without (.anyOf [.categories [.ps, .pe, .pi, .pf], .ranges [
        (0x22, 0x22), (0x27, 0x27), (0x275b, 0x2760), (0x2e00, 0x2e01), (0x2e06, 0x2e08),
        (0x2e0b, 0x2e0b), (0x1f676, 0x1f678)]])
      (.anyOf [ambiguousEnd, sentenceEnd])),
  (["cr"], carriageReturn),
  (["ex", "extend"], sentenceExtending),
  (["fo", "format"],
    .without (.categories [.cf])
      (.anyOf [graphemeExtend, characters [0x200d], numberSign, abbreviationSign])),
  (["lf"], lineFeed),
  (["le", "oletter"],
    .without (.anyOf [alphabetic, abbreviationSign, characters [0x5f3]])
      (.anyOf [sentenceLower, sentenceUpper, sentenceExtending])),
  (["lo", "lower"], sentenceLower),
  (["nu", "numeric"], digit),
  (["sc", "scontinue"], .ranges [
    (0x2c, 0x2d), (0x3a, 0x3b), (0x37e, 0x37e), (0x55d, 0x55d), (0x60c, 0x60d), (0x7f8, 0x7f8),
    (0x1802, 0x1802), (0x1808, 0x1808), (0x2013, 0x2014), (0x3001, 0x3001), (0xfe10, 0xfe11),
    (0xfe13, 0xfe14), (0xfe31, 0xfe32), (0xfe50, 0xfe51), (0xfe54, 0xfe55), (0xfe58, 0xfe58),
    (0xfe63, 0xfe63), (0xff0c, 0xff0d), (0xff1a, 0xff1b), (0xff64, 0xff64)]),
  (["se", "sep"], characters [0x85, 0x2028, 0x2029]),
  (["sp"], .ranges [
    (0x09, 0x09), (0x0b, 0x0c), (0x20, 0x20), (0xa0, 0xa0), (0x1680, 0x1680), (0x2000, 0x200a),
    (0x202f, 0x202f), (0x205f, 0x205f), (0x3000, 0x3000)]),
  (["st", "sterm"], sentenceEnd),
  (["up", "upper"], sentenceUpper)]

end Leftmost.Unicode
