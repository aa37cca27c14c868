import Leftmost.Unicode.Alphabetic
import Leftmost.Unicode.Format

/-!
# Leftmost.Unicode.Word

Word characters: what `\w` matches, and what a word edge separates from the rest.
-/

namespace Leftmost.Unicode

/-- Letters, marks, decimal digits, connectors and joiners. -/
def word : RangeSet :=
  (Description.anyOf [alphabetic, .categories [.mn, .mc, .me, .nd, .pc], joinControl]).set

/-- Word characters among the first 128: letters, digits and the underscore. -/
def asciiWord : RangeSet := RangeSet.ofList [(0x30, 0x39), (0x41, 0x5a), (0x5f, 0x5f), (0x61, 0x7a)]

/-- Whether a code point is a word character; the common first 128 are answered without a search. -/
def isWord (n : Nat) : Bool := if n < 0x80 then asciiWord.contains n else word.contains n

end Leftmost.Unicode
