import Leftmost.Registry
import Leftmost.Text.Indexed

/-!
# Leftmost.Scanner

An ordered list of patterns that are searched together for the earliest match, in a text of bytes or
in one whose positions are counted in 16-bit units.
-/

namespace Leftmost

/-- Where one group is in the text searched. One that took no part has no length. -/
structure Capture where
  index : Nat
  start : Offset
  stop : Offset
  length : Offset
deriving DecidableEq, Repr

namespace Capture

/-- A group between two offsets. Its length leads from the one to the other. -/
def ofBounds (index : Nat) (start stop : Offset) : Except Overflow Capture := do
  let length ← if start = unsetOffset then pure 0 else Checked.sub stop start
  return { index, start, stop, length }

/-- Whether the group took part. -/
def isSet (c : Capture) : Bool := c.start != unsetOffset

end Capture

/-- The position of the pattern that matched in its list, and its groups. -/
structure ScanMatch where
  index : Nat
  captures : List Capture
deriving DecidableEq, Repr

namespace ScanMatch

/-- A group of a match, with its bounds converted. -/
def captureOf (convert : Offset → Offset) (index : Nat) (bounds : Offset × Offset) :
    Except Overflow Capture :=
  if bounds.1 = unsetOffset then Capture.ofBounds index unsetOffset unsetOffset
  else Capture.ofBounds index (convert bounds.1) (convert bounds.2)

/-- The groups from a number on, with their bounds converted. -/
def capturesFrom (convert : Offset → Offset) (index : Nat) :
    List (Offset × Offset) → Except Overflow (List Capture)
  | [] => return []
  | bounds :: rest => do
    let first ← captureOf convert index bounds
    return first :: (← capturesFrom convert (index + 1) rest)

/-- A flat match with its offsets converted; `none` for no match. -/
def ofFlat? (m : FlatMatch) (convert : Offset → Offset) : Except Overflow (Option ScanMatch) :=
  if m.isMatch then (capturesFrom convert 0 m.groups).map fun captures => some ⟨m.index, captures⟩
  else return none

end ScanMatch

/-- Patterns that are searched together. -/
structure Scanner where
  registry : Registry
  handles : List Handle

namespace Scanner

/-- Compiles patterns one after the other; the first that is refused ends it. Tokens made already
are listed backwards. -/
def compileAll (r : Registry) (handles : List Handle) :
    List String → Logged (Except ScanError Scanner)
  | [] =>
    { value := .ok ⟨r, handles.reverse⟩, events := [.scannerReady handles.length] }
  | source :: rest =>
    let (compiled, r) := r.compile source
    match compiled.value with
    | .ok h =>
      let later := compileAll r (h :: handles) rest
      { later with events := compiled.events ++ later.events }
    | .error e =>
      { value := .error e, events := compiled.events ++ (r.dispose handles.reverse).1.events }

/-- A scanner for patterns, set up as the settings say. -/
def ofPatterns (sources : List String) (s : Settings) (e : Engines := .builtIn) :
    Logged (Except ScanError Scanner) :=
  match s.validate with
  | .error message => { value := .error (.badSettings message), events := [] }
  | .ok () => compileAll (.ofSettings s e) [] sources

def size (s : Scanner) : Nat := s.handles.length

def isEmpty (s : Scanner) : Bool := s.handles.isEmpty

/-- The texts of the patterns, in order. -/
def sources (s : Scanner) : List String := s.handles.filterMap s.registry.source?

/-- The earliest match from `start` on, flattened, in bytes. -/
def findBest (s : Scanner) (h : ByteArray) (start : Nat) : Logged (Except ScanError FlatMatch) :=
  s.registry.findBest s.handles h start

/-- The earliest match from `start` on, in bytes. -/
def findNext (s : Scanner) (h : ByteArray) (start : Nat) :
    Logged (Except ScanError (Except Overflow (Option ScanMatch))) :=
  (s.findBest h start).map fun best => best.map fun m => ScanMatch.ofFlat? m id

/-- The byte offset of a position in units; a negative one counts as 0. -/
def byteStart (t : IndexedText) (start : Int) : Nat := t.byteOffset start.toNat

/-- The unit offset of a byte offset. -/
def unitOf (t : IndexedText) (o : Offset) : Offset := (t.unitOffset o.toNat).toUInt64

/-- The earliest match from `start` on, in units. -/
def findNextUnits (s : Scanner) (t : IndexedText) (start : Int) :
    Logged (Except ScanError (Except Overflow (Option ScanMatch))) :=
  (s.findBest t.bytes (byteStart t start)).map fun best =>
    best.map fun m => ScanMatch.ofFlat? m (unitOf t)

theorem value_findNext (s : Scanner) (h : ByteArray) (start : Nat) :
    (s.findNext h start).value =
      (s.findBest h start).value.map fun m => ScanMatch.ofFlat? m id := rfl

theorem value_findNextUnits (s : Scanner) (t : IndexedText) (start : Int) :
    (s.findNextUnits t start).value = (s.findBest t.bytes (byteStart t start)).value.map
      fun m => ScanMatch.ofFlat? m (unitOf t) := rfl

end Scanner

end Leftmost
