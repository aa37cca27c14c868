/-!
# Leftmost.Pattern.Refusal

Why the text of a pattern is refused: the reason, and the stage at which it is noticed.
-/

namespace Leftmost

/-- A reason to refuse a pattern. -/
inductive Refusal where
  | unopenedGroup
  | unclosedGroup
  /-- A group that begins as no group does. -/
  | unknownGroup
  | badGroupName
  | badFlags
  | nothingToRepeat
  | badCount
  | unclosedClass
  | badRange
  | badClassItem
  | danglingEscape
  | unknownEscape
  | badCodePoint
  | unknownProperty
  | badWordEdge
  | badReference
  | nestedTooDeep
  /-- Characters where only bytes can be matched. -/
  | notBytes
  /-- The compiled pattern would take more room than it may. -/
  | tooBig
  /-- Look-behind over a part whose length varies and that needs backtracking. -/
  | variableLookBehind
  | recursion
deriving DecidableEq, Repr

/-- The wording of a reason. -/
def Refusal.message : Refusal → String
  | unopenedGroup => "unopened group"
  | unclosedGroup => "unclosed group"
  | unknownGroup => "unknown kind of group"
  | badGroupName => "malformed or repeated group name"
  | badFlags => "malformed flags"
  | nothingToRepeat => "nothing to repeat"
  | badCount => "malformed number of repetitions"
  | unclosedClass => "unclosed character class"
  | badRange => "malformed range in a character class"
  | badClassItem => "item that cannot be in a character class"
  | danglingEscape => "escape at the end of the pattern"
  | unknownEscape => "unknown escape"
  | badCodePoint => "malformed code point"
  | unknownProperty => "unknown character property"
  | badWordEdge => "malformed word edge"
  | badReference => "reference to a group that does not exist"
  | nestedTooDeep => "nested too deeply"
  | notBytes => "characters where only bytes can be matched"
  | tooBig => "compiled pattern exceeds the size limit"
  | variableLookBehind => "look-behind of variable length"
  | recursion => "recursion into a group"

/-- A refused pattern. -/
inductive Fault where
  /-- The text spells no pattern. -/
  | malformed (why : Refusal)
  /-- The plain pattern is too big. -/
  | oversized
  /-- The text spells a pattern, but it cannot be prepared for matching. -/
  | unsupported (why : Refusal)
deriving DecidableEq, Repr

/-- The wording of a fault. -/
def Fault.message : Fault → String
  | malformed why | unsupported why => why.message
  | oversized => Refusal.message .tooBig

end Leftmost
