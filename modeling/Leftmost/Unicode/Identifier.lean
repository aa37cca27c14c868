import Leftmost.Unicode.Description

/-!
# Leftmost.Unicode.Identifier

What identifiers begin with and go on with, and the signs that languages use around them.
-/

namespace Leftmost.Unicode

open Description

/-- Signs that may have a meaning of their own. -/
def patternSyntax : Description := .ranges [
  (0x21, 0x2f), (0x3a, 0x40), (0x5b, 0x5e), (0x60, 0x60), (0x7b, 0x7e), (0xa1, 0xa7), (0xa9, 0xa9),
  (0xab, 0xac), (0xae, 0xae), (0xb0, 0xb1), (0xb6, 0xb6), (0xbb, 0xbb), (0xbf, 0xbf), (0xd7, 0xd7),
  (0xf7, 0xf7), (0x2010, 0x2027), (0x2030, 0x203e), (0x2041, 0x2053), (0x2055, 0x205e),
  (0x2190, 0x245f), (0x2500, 0x2775), (0x2794, 0x2bff), (0x2e00, 0x2e7f), (0x3001, 0x3003),
  (0x3008, 0x3020), (0x3030, 0x3030), (0xfd3e, 0xfd3f), (0xfe45, 0xfe46)]

/-- White space between signs. -/
def patternBlank : Description := .ranges [
  (0x9, 0xd), (0x20, 0x20), (0x85, 0x85), (0x200e, 0x200f), (0x2028, 0x2029)]

/-- Characters that used to begin identifiers and still may. -/
def otherIdStart : Description := .ranges [
  (0x1885, 0x1886), (0x2118, 0x2118), (0x212e, 0x212e), (0x309b, 0x309c)]

/-- Characters within identifiers that are neither letters, marks, digits nor connectors. -/
def otherIdContinue : Description := .ranges [
  (0xb7, 0xb7), (0x387, 0x387), (0x1369, 0x1371), (0x19da, 0x19da), (0x200c, 0x200d),
  (0x30fb, 0x30fb), (0xff65, 0xff65)]

def idStart : Description :=
  .without (.anyOf [.categories [.lu, .ll, .lt, .lm, .lo, .nl], otherIdStart])
    (.anyOf [patternSyntax, patternBlank])

def idContinue : Description :=
  .without (.anyOf [idStart, .categories [.mn, .mc, .nd, .pc], otherIdContinue])
    (.anyOf [patternSyntax, patternBlank])

/-- Characters that compatibility forms turn into something that is no identifier. -/
def unstable : Description := .ranges [
  (0x37a, 0x37a), (0x309b, 0x309c), (0xfc5e, 0xfc63), (0xfdfa, 0xfdfb), (0xfe70, 0xfe70),
  (0xfe72, 0xfe72), (0xfe74, 0xfe74), (0xfe76, 0xfe76), (0xfe78, 0xfe78), (0xfe7a, 0xfe7a),
  (0xfe7c, 0xfe7c), (0xfe7e, 0xfe7e)]

def xidContinue : Description := .without idContinue unstable

/-- Vowel signs that compatibility forms split are no start either. -/
def xidStart : Description :=
  .without idStart (.anyOf [unstable, .ranges [(0xe33, 0xe33), (0xeb3, 0xeb3), (0xff9e, 0xff9f)]])

/-- Mathematical signs that may begin identifiers. -/
def mathStart : Description := .ranges [
  (0x2202, 0x2202), (0x2207, 0x2207), (0x221e, 0x221e), (0x1d6c1, 0x1d6c1), (0x1d6db, 0x1d6db),
  (0x1d6fb, 0x1d6fb), (0x1d715, 0x1d715), (0x1d735, 0x1d735), (0x1d74f, 0x1d74f),
  (0x1d76f, 0x1d76f), (0x1d789, 0x1d789), (0x1d7a9, 0x1d7a9), (0x1d7c3, 0x1d7c3)]

/-- Raised and lowered digits and signs may stand within them. -/
def mathContinue : Description :=
  .anyOf [mathStart, .ranges [
    (0xb2, 0xb3), (0xb9, 0xb9), (0x2070, 0x2070), (0x2074, 0x207e), (0x2080, 0x208e)]]

end Leftmost.Unicode
