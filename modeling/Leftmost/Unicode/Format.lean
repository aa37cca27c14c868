import Leftmost.Unicode.Combining

/-!
# Leftmost.Unicode.Format

Characters that are not seen: they direct how others are shown, or are not for use at all.
-/

namespace Leftmost.Unicode

open Description

/-- Directions of writing. -/
def bidiControl : Description := .ranges [
  (0x61c, 0x61c), (0x200e, 0x200f), (0x202a, 0x202e), (0x2066, 0x2069)]

/-- Joiners. -/
def joinControl : Description := .ranges [
  (0x200c, 0x200d)]

/-- Characters that should not be used. -/
def deprecated : Description := .ranges [
  (0x149, 0x149), (0x673, 0x673), (0xf77, 0xf77), (0xf79, 0xf79), (0x17a3, 0x17a4),
  (0x206a, 0x206f), (0x2329, 0x232a), (0xe0001, 0xe0001)]

/-- The last two code points of each plane, and a few more, will never be characters. -/
def noncharacter : Description :=
  .ranges ((0xfdd0, 0xfdef) :: (List.range 17).map fun n => (0x10000 * n + 0xfffe, 0x10000 * n + 0xffff))

/-- Code points to ignore that are neither format characters nor variation selectors. -/
def otherIgnorable : Description := .ranges [
  (0x34f, 0x34f), (0x115f, 0x1160), (0x17b4, 0x17b5), (0x2065, 0x2065), (0x3164, 0x3164),
  (0xffa0, 0xffa0), (0xfff0, 0xfff8), (0xe0000, 0xe0000), (0xe0002, 0xe001f), (0xe0080, 0xe00ff),
  (0xe01f0, 0xe0fff)]

/-- Code points that are not shown where they are not supported. -/
def ignorable : Description :=
  .without (.anyOf [otherIgnorable, .categories [.cf], variationSelector])
    (.anyOf [.ranges [(0xfff9, 0xfffb), (0x13430, 0x13440)], prependedMark])

end Leftmost.Unicode
