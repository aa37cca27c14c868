import Leftmost.Scanner

/-!
# Leftmost.Expression

A single pattern, to be searched for or tested; its matches come with the text of their groups.
-/

namespace Leftmost

/-- A group and its text, which is empty for a group that took no part. -/
structure TextCapture where
  capture : Capture
  text : String
deriving DecidableEq, Repr

/-- A single pattern. -/
structure Expression where
  source : String
  scanner : Scanner

namespace Expression

/-- An expression for a pattern, set up as the settings say. -/
def ofPattern (source : String) (s : Settings) (e : Engines := .builtIn) :
    Logged (Except ScanError Expression) :=
  (Scanner.ofPatterns [source] s e).map fun made => made.map fun scanner => { source, scanner }

/-- The groups of a match with their texts. -/
def withTexts (slice : Capture → String) (m : ScanMatch) : List TextCapture :=
  m.captures.map fun c => { capture := c, text := if c.isSet then slice c else "" }

/-- The text between two byte offsets. -/
def sliceBytes (text : String) (c : Capture) : String :=
  Utf8.decodeLossy (text.toUTF8.extract c.start.toNat c.stop.toNat)

/-- What is made of the outcome of a search, if it is a match. -/
def mapFound {α β : Type} (f : α → β) :
    Except ScanError (Except Overflow (Option α)) → Except ScanError (Except Overflow (Option β)) :=
  Except.map (Except.map (Option.map f))

/-- The groups of the first match from `start` on, in bytes. -/
def search (e : Expression) (text : String) (start : Nat) :
    Logged (Except ScanError (Except Overflow (Option (List TextCapture)))) :=
  (e.scanner.findNext text.toUTF8 start).map (mapFound (withTexts (sliceBytes text)))

/-- The text between two unit offsets. -/
def sliceUnits (t : IndexedText) (c : Capture) : String :=
  t.substring c.start.toNat c.stop.toNat

/-- The groups of the first match from `start` on, in units. -/
def searchUnits (e : Expression) (t : IndexedText) (start : Int) :
    Logged (Except ScanError (Except Overflow (Option (List TextCapture)))) :=
  (e.scanner.findNextUnits t start).map (mapFound (withTexts (sliceUnits t)))

/-- Whether the pattern matches anywhere. -/
def test (e : Expression) (text : String) :
    Logged (Except ScanError (Except Overflow Bool)) :=
  (e.search text 0).map (Except.map (Except.map Option.isSome))

end Expression

end Leftmost
