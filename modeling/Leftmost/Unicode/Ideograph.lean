import Leftmost.Unicode.Description

/-!
# Leftmost.Unicode.Ideograph

Ideographs, their parts, and the signs that describe how they are composed.
-/

namespace Leftmost.Unicode

open Description

/-- Ideographs of all scripts. -/
def ideographic : Description := .ranges [
  (0x3006, 0x3007), (0x3021, 0x3029), (0x3038, 0x303a), (0x3400, 0x4dbf), (0x4e00, 0x9fff),
  (0xf900, 0xfa6d), (0xfa70, 0xfad9), (0x16fe4, 0x16fe4), (0x17000, 0x187f7), (0x18800, 0x18cd5),
  (0x18cff, 0x18d08), (0x1b170, 0x1b2fb), (0x20000, 0x2a6df), (0x2a700, 0x2b739),
  (0x2b740, 0x2b81d), (0x2b820, 0x2cea1), (0x2ceb0, 0x2ebe0), (0x2ebf0, 0x2ee5d),
  (0x2f800, 0x2fa1d), (0x30000, 0x3134a), (0x31350, 0x323af)]

/-- Ideographs of the Han script that are encoded in their own right. -/
def unifiedIdeograph : Description := .ranges [
  (0x3400, 0x4dbf), (0x4e00, 0x9fff), (0xfa0e, 0xfa0f), (0xfa11, 0xfa11), (0xfa13, 0xfa14),
  (0xfa1f, 0xfa1f), (0xfa21, 0xfa21), (0xfa23, 0xfa24), (0xfa27, 0xfa29), (0x20000, 0x2a6df),
  (0x2a700, 0x2b739), (0x2b740, 0x2b81d), (0x2b820, 0x2cea1), (0x2ceb0, 0x2ebe0),
  (0x2ebf0, 0x2ee5d), (0x30000, 0x3134a), (0x31350, 0x323af)]

/-- Radicals. -/
def radical : Description := .ranges [
  (0x2e80, 0x2e99), (0x2e9b, 0x2ef3), (0x2f00, 0x2fd5)]

/-- Signs that describe a change to one ideograph. -/
def composesOne : Description := .ranges [
  (0x2ffe, 0x2fff)]

/-- Signs that compose two ideographs. -/
def composesTwo : Description := .ranges [
  (0x2ff0, 0x2ff1), (0x2ff4, 0x2ffd), (0x31ef, 0x31ef)]

/-- Signs that compose three ideographs. -/
def composesThree : Description := .ranges [
  (0x2ff2, 0x2ff3)]

end Leftmost.Unicode
