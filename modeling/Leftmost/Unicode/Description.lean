import Leftmost.Unicode.Script

/-!
# Leftmost.Unicode.Description

Sets of characters as they are put together from categories, scripts, listed characters and other such
sets. A description is short; its set is worked out when a pattern asks for it.
-/

namespace Leftmost.Unicode

/-- How a set of characters is put together. -/
inductive Description where
  | ranges (rs : List (Nat × Nat))
  | categories (cs : List Category)
  | script (code : String)
  /-- What is in one of some sets. -/
  | anyOf (ds : List Description)
  | without (a b : Description)
  | both (a b : Description)
deriving Inhabited

namespace Description

mutual

/-- The set that is described. -/
def set : Description → RangeSet
  | ranges rs => .ofList rs
  | categories cs => .ofList (cs.flatMap Category.ranges)
  | script code => (scriptSet? code).getD .empty
  | anyOf ds => .ofList (members ds)
  | without a b => a.set.diff b.set
  | both a b => a.set.inter b.set

def members : List Description → List (Nat × Nat)
  | [] => []
  | d :: ds => d.set.toList ++ members ds

end

/-- A few characters. -/
def characters (cs : List Nat) : Description := ranges (cs.map fun n => (n, n))

end Description

end Leftmost.Unicode
