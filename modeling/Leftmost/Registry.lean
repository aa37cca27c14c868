import Leftmost.Compiled
import Leftmost.Selection

/-!
# Leftmost.Registry

A store of compiled patterns that hands out tokens for them. A slot whose pattern was given up is
used again, the one given up last first, with its generation advanced; only when none is free does
the store grow.
-/

namespace Leftmost

/-- A place for a pattern. -/
structure Slot where
  generation : Nat
  pattern : Option Compiled

/-- A store of compiled patterns. -/
structure Registry where
  compiler : Compiler
  slots : Array Slot
  /-- The slots without a pattern, the one to be used next first. -/
  free : List Nat
  live : Nat

namespace Registry

/-- A store without patterns. -/
def ofSettings (s : Settings) (e : Engines := .builtIn) : Registry :=
  { compiler := .ofSettings s e, slots := #[], free := [], live := 0 }

/-- How many slots a store may have: a greater slot would not fit into a packed token. -/
def capacity : Nat := Handle.halfSize - 1

def size (r : Registry) : Nat := r.live

def isEmpty (r : Registry) : Bool := r.live == 0

/-! ## Changing -/

/-- Compiles later patterns by other settings. -/
def reconfigure (r : Registry) (s : Settings) : Registry :=
  { r with compiler := .ofSettings s r.compiler.engines }

/-- Stores a pattern. -/
def insert (r : Registry) (p : Compiled) : Logged (Except ScanError Handle) × Registry :=
  match r.free with
  | slot :: free =>
    let generation := ((r.slots[slot]?.map (·.generation)).getD 0 + 1) % Handle.halfSize
    ({ value := .ok { slot, generation }, events := [] },
      { r with
        slots := r.slots.setIfInBounds slot { generation, pattern := some p }
        free
        live := r.live + 1 })
  | [] =>
    if capacity ≤ r.slots.size then
      ({ value := .error (.badArgument s!"too many live patterns (limit {capacity})")
         events := [.registryFull r.slots.size] }, r)
    else
      ({ value := .ok { slot := r.slots.size, generation := 0 }, events := [] },
        { r with
          slots := r.slots.push { generation := 0, pattern := some p }
          live := r.live + 1 })

/-- Stores what a compiler gave. -/
def insertCompiled (r : Registry) (compiled : Except ScanError Compiled) :
    Logged (Except ScanError Handle) × Registry :=
  match compiled with
  | .error e => ({ value := .error e, events := [] }, r)
  | .ok p =>
    let (inserted, r) := r.insert p
    ({ inserted with events := .compiled p.source p.engine :: inserted.events }, r)

/-- Compiles a pattern and stores it. -/
def compile (r : Registry) (source : String) : Logged (Except ScanError Handle) × Registry :=
  r.insertCompiled (r.compiler.compile source)

/-- Compiles a pattern whose text is given as bytes, and stores it. -/
def compileBytes (r : Registry) (source : ByteArray) :
    Logged (Except ScanError Handle) × Registry :=
  r.insertCompiled (r.compiler.compileBytes source)

/-- Compiles patterns one after the other and stores them; the first that is refused ends it. -/
def compileEach (r : Registry) : List String → Logged (Except ScanError (List Handle × Registry))
  | [] => { value := .ok ([], r), events := [] }
  | source :: rest =>
    let (compiled, r) := r.compile source
    compiled.andThen fun h => (r.compileEach rest).map (Except.map fun (hs, r) => (h :: hs, r))

/-! ## Looking up -/

/-- The pattern of a token, if it is still there. -/
def get? (r : Registry) (h : Handle) : Option Compiled :=
  match r.slots[h.slot]? with
  | some slot => if slot.generation = h.generation then slot.pattern else none
  | none => none

/-- The pattern of a token. -/
def get (r : Registry) (h : Handle) : Except ScanError Compiled :=
  match r.get? h with
  | some p => .ok p
  | none => .error (.badHandle h)

def contains (r : Registry) (h : Handle) : Bool := (r.get? h).isSome

/-- The text of a token's pattern. -/
def source? (r : Registry) (h : Handle) : Option String := (r.get? h).map (·.source)

/-! ## Giving up -/

/-- Gives up the pattern of a token, if it is still there. -/
def disposeOne (r : Registry) (h : Handle) : Logged Unit × Registry :=
  match r.get? h with
  | none => ({ value := (), events := [] }, r)
  | some _ =>
    ({ value := (), events := [.disposed h] },
      { r with
        slots := r.slots.setIfInBounds h.slot { generation := h.generation, pattern := none }
        free := h.slot :: r.free
        live := r.live - 1 })

/-- Gives up the patterns of tokens, one after the other; a token whose pattern is gone counts for
nothing. -/
def dispose (r : Registry) : List Handle → Logged Unit × Registry
  | [] => ({ value := (), events := [] }, r)
  | h :: rest =>
    let (first, r) := r.disposeOne h
    let (later, r) := r.dispose rest
    ({ value := (), events := first.events ++ later.events }, r)

/-! ## Searching -/

/-- The patterns of tokens, or the error of the first one whose pattern is not there. -/
def getAll (r : Registry) : List Handle → Except ScanError (List Compiled)
  | [] => .ok []
  | h :: rest =>
    match r.get h with
    | .error e => .error e
    | .ok p =>
      match r.getAll rest with
      | .error e => .error e
      | .ok ps => .ok (p :: ps)

/-- The earliest match of several patterns, flattened. -/
def bestOf (patterns : List Compiled) (h : ByteArray) (start : Nat) :
    Logged (Except ScanError FlatMatch) :=
  let pass : Logged (Except ScanError Selection.Best) :=
    Id.run (Selection.select (patterns.map fun p h start stop => pure (p.search h start stop))
      (.ofStart h start))
  { value := pass.value.map fun best =>
      match best with
      | some (index, r) => .ofRegion r index
      | none => .noMatch
    events := pass.events }

/-- Searches a text from `start` on with the patterns of tokens; gives the earliest match. -/
def findBest (r : Registry) (handles : List Handle) (h : ByteArray) (start : Nat) :
    Logged (Except ScanError FlatMatch) :=
  match r.getAll handles with
  | .error e => { value := .error e, events := [] }
  | .ok patterns => bestOf patterns h start

end Registry

/-- Compiles patterns with default settings, into a store of their own, and gives their earliest
match. -/
def findBestMatch (sources : List String) (h : ByteArray) (start : Nat)
    (e : Engines := .builtIn) : Logged (Except ScanError FlatMatch) :=
  ((Registry.ofSettings {} e).compileEach sources).andThen fun (handles, r) =>
    r.findBest handles h start

end Leftmost
