import Leftmost.Error
import Leftmost.Settings

/-!
# Leftmost.Log

What is told about a run: events, each with a level and a line of text. Operations that tell
something return their events beside their result, in order.
-/

namespace Leftmost

/-- Levels of events. As the level of a log, one lets through itself and all before it. -/
inductive Level where
  | off
  | error
  | warn
  | info
  | debug
  | trace
deriving DecidableEq, Repr

namespace Level

def name : Level → String
  | off => "OFF"
  | error => "ERROR"
  | warn => "WARN"
  | info => "INFO"
  | debug => "DEBUG"
  | trace => "TRACE"

/-- The level of a name in any case; `warn` for one that is no level. -/
def ofName (name : String) : Level :=
  match name.toLower with
  | "error" => error
  | "warn" | "warning" => warn
  | "info" => info
  | "debug" => debug
  | "trace" => trace
  | "off" => off
  | _ => warn

end Level

/-- Something worth telling. -/
inductive Event where
  | compiled (source : String) (engine : Engine)
  | scannerReady (patterns : Nat)
  | bestSoFar (index : Nat) (offset : UInt64)
  | searchFailed (index start : Nat) (failure : SearchFailure)
  /-- The selection is over. -/
  | selectionTimed
  | disposed (handle : Handle)
  | registryFull (slots : Nat)
  /-- A call from outside failed. -/
  | callFailed (e : ScanError)
  | reconfigured (s : Settings)
deriving DecidableEq, Repr

namespace Event

def level : Event → Level
  | compiled .. | scannerReady _ | callFailed _ | reconfigured _ => .debug
  | bestSoFar .. | selectionTimed | disposed _ => .trace
  | searchFailed .. | registryFull _ => .warn

/-- The line of an event, without its level. -/
def text : Event → String
  | compiled source engine => s!"Compiled pattern {Quoted.quote source} with {engine.label} engine"
  | scannerReady n => s!"Scanner ready with {n} patterns"
  | bestSoFar index offset => s!"Pattern #{index} is the best so far at {offset}"
  | searchFailed index start failure =>
    s!"Pattern #{index} failed at offset {start}: {failure.render}"
  | selectionTimed => "[TIMER] select_best_match"
  | disposed handle => s!"Disposed pattern {handle.render}"
  | registryFull n => s!"Pattern registry is full ({n} slots)"
  | callFailed e => s!"FFI call failed: {e.render}"
  | reconfigured s => s!"Scanner reconfigured: {s.render}"

/-- The line of an event. -/
def render (e : Event) : String := s!"{e.level.name} {e.text}"

end Event

/-- A result with what was told on the way to it. -/
structure Logged (α : Type) where
  value : α
  events : List Event

namespace Logged

variable {α β ε : Type}

/-- Makes something else of a result. -/
def map (f : α → β) (x : Logged α) : Logged β := { value := f x.value, events := x.events }

@[simp]
theorem value_map (f : α → β) (x : Logged α) : (x.map f).value = f x.value := rfl

@[simp]
theorem events_map (f : α → β) (x : Logged α) : (x.map f).events = x.events := rfl

/-- Goes on with a result, unless it is an error. What is told then comes behind. -/
def andThen (x : Logged (Except ε α)) (f : α → Logged (Except ε β)) : Logged (Except ε β) :=
  match x.value with
  | .error e => { value := .error e, events := x.events }
  | .ok a => { f a with events := x.events ++ (f a).events }

@[simp]
theorem value_andThen (x : Logged (Except ε α)) (f : α → Logged (Except ε β)) :
    (x.andThen f).value = x.value.bind fun a => (f a).value := by
  unfold andThen
  cases x.value <;> rfl

theorem events_andThen_of_ok {x : Logged (Except ε α)} {a : α} (h : x.value = .ok a)
    (f : α → Logged (Except ε β)) : (x.andThen f).events = x.events ++ (f a).events := by
  unfold andThen
  rw [h]

end Logged

end Leftmost
