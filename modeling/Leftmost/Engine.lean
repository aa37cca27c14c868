/-!
# Leftmost.Engine

The two engines that compile and run patterns.
-/

namespace Leftmost

/-- An engine. -/
inductive Engine where
  /-- Plain patterns in linear time, over any bytes. -/
  | standard
  /-- Extended patterns, over UTF-8 only. -/
  | backtracking
deriving DecidableEq, Repr

namespace Engine

/-- How an engine is shown. -/
def label : Engine → String
  | standard => "Standard"
  | backtracking => "Backtracking"

/-- The name of an engine in settings. -/
def name : Engine → String
  | standard => "standard"
  | backtracking => "backtracking"

/-- The engine of a name. -/
def ofName? (name : String) : Option Engine :=
  if name = standard.name then some standard
  else if name = backtracking.name then some backtracking
  else none

/-- A name is read back as its engine. -/
theorem ofName?_name (e : Engine) : ofName? e.name = some e := by cases e <;> decide

end Engine

end Leftmost
