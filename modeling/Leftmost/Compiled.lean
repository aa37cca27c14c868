import Leftmost.Match.Finder
import Leftmost.Region
import Leftmost.Settings
import Leftmost.Error

/-!
# Leftmost.Compiled

Compiled patterns. A compiler holds the engines and those settings that decide how a pattern is
compiled; a compiled pattern keeps its engine and its limits, whatever the settings become later.

A search takes a range of the text. Bytes before the range are seen by what looks behind; bytes
behind it are not seen at all. The backtracking engine wants the bytes up to the end of the range to
be UTF-8, and a start inside a character is moved forward to the next one.
-/

namespace Leftmost

/-- What decides how a pattern is compiled. -/
structure Compiler where
  engines : Engines
  engine : Engine
  backtrackLimit : UInt64
  sizeLimit : UInt64

/-- A pattern ready to search. -/
structure Compiled where
  source : String
  engine : Engine
  finder : Finder
  backtrackLimit : UInt64

namespace Compiler

def ofSettings (s : Settings) (e : Engines := .builtIn) : Compiler :=
  { engines := e, engine := s.engine, backtrackLimit := s.backtrackLimit, sizeLimit := s.sizeLimit }

/-- A compiler is that of settings if it has their engine and their limits; the level of the log does
not count. -/
theorem eq_ofSettings_iff {c : Compiler} {s : Settings} {e : Engines} :
    c = ofSettings s e ↔ c.engines = e ∧ c.engine = s.engine ∧
      c.backtrackLimit = s.backtrackLimit ∧ c.sizeLimit = s.sizeLimit := by
  cases c
  simp only [ofSettings, mk.injEq]

/-- The code of a fault. -/
def faultCode : Fault → ErrorCode
  | .malformed _ => .invalidSyntax
  | .oversized => .patternTooBig
  | .unsupported _ => .unsupportedPattern

/-- Compiles a pattern. -/
def compile (c : Compiler) (source : String) : Except ScanError Compiled :=
  match c.engines.finder c.engine c.sizeLimit.toNat source with
  | .ok f => .ok { source, engine := c.engine, finder := f, backtrackLimit := c.backtrackLimit }
  | .error fault => .error (.badPattern source (faultCode fault) fault.message)

/-- A text that compiles has a finder, and keeps the engine and the limit of its compiler. -/
theorem compile_eq_ok_iff {c : Compiler} {source : String} {p : Compiled} :
    c.compile source = .ok p ↔ ∃ f, c.engines.finder c.engine c.sizeLimit.toNat source = .ok f ∧
      p = { source, engine := c.engine, finder := f, backtrackLimit := c.backtrackLimit } := by
  unfold compile
  cases c.engines.finder c.engine c.sizeLimit.toNat source with
  | error fault => simp
  | ok f => simp [eq_comm]

/-- Under settings it keeps their engine and their limit; the room that it may take is theirs. -/
theorem compile_ofSettings_eq_ok_iff {s : Settings} {e : Engines} {source : String}
    {p : Compiled} : (ofSettings s e).compile source = .ok p ↔
      e.finder s.engine s.sizeLimit.toNat source = .ok p.finder ∧ p.source = source ∧
        p.engine = s.engine ∧ p.backtrackLimit = s.backtrackLimit := by
  rw [compile_eq_ok_iff]
  constructor
  · rintro ⟨f, hf, rfl⟩
    exact ⟨hf, rfl, rfl, rfl⟩
  · obtain ⟨source, engine, finder, limit⟩ := p
    rintro ⟨hf, rfl, rfl, rfl⟩
    exact ⟨finder, hf, rfl⟩

theorem compile_eq_error_iff {c : Compiler} {source : String} {e : ScanError} :
    c.compile source = .error e ↔
      ∃ fault, c.engines.finder c.engine c.sizeLimit.toNat source = .error fault ∧
        e = .badPattern source (faultCode fault) fault.message := by
  unfold compile
  cases c.engines.finder c.engine c.sizeLimit.toNat source with
  | error fault => simp [eq_comm]
  | ok f => simp

/-- Compiles a pattern whose text is given as bytes. -/
def compileBytes (c : Compiler) (source : ByteArray) : Except ScanError Compiled :=
  match String.fromUTF8? source with
  | some source => c.compile source
  | none => .error .badPatternText

end Compiler

namespace Compiled

/-- Number of groups every match reports, group 0 included. -/
def groupCount (p : Compiled) : Nat := p.finder.groupCount

/-- How a compiled pattern is shown. -/
def render (p : Compiled) : String :=
  "CompiledPattern \x7b source: " ++ Quoted.quote p.source ++ ", engine: " ++ p.engine.label ++ " \x7d"

/-- The region of spans. -/
def regionOf (spans : List Span) : Region :=
  .ofGroups (spans.map fun s => s.map fun (first, last) => (first.toUInt64, last.toUInt64))

/-- The failure of a search that overran its bounds. -/
def overrun : Plan.Overrun → SearchFailure
  | .limitExceeded => ⟨.stackLimit, "backtrack limit exceeded"⟩
  | .stackFull =>
    ⟨.memory, "Error executing regex: Max stack size exceeded for backtracking"⟩

/-- The text up to the end of a range. -/
def cut (h : ByteArray) (stop : Nat) : ByteArray := if stop < h.size then h.extract 0 stop else h

@[simp]
theorem cut_size (h : ByteArray) : cut h h.size = h := by simp [cut]

/-- The leftmost match that begins between `start` and `stop`, both of which are moved into the text
if they are beyond its end, and `start` to `stop` if it is beyond that. -/
def search (p : Compiled) (h : ByteArray) (start stop : Nat) :
    Except SearchFailure (Option Region) :=
  let h := cut h stop
  let start := min start h.size
  let found (start : Nat) : Except SearchFailure (Option Region) :=
    match p.finder.find p.backtrackLimit.toNat h start with
    | .ok spans => .ok (spans.map regionOf)
    | .error why => .error (overrun why)
  match p.engine with
  | .standard => found start
  | .backtracking =>
    match Utf8.check h with
    | .ok () => found (Utf8.nextBoundary h start)
    | .error flaw => .error ⟨.invalidCodePoint, flaw.message⟩

end Compiled

end Leftmost
