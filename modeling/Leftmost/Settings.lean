import Leftmost.Engine
import Leftmost.Json.Value
import Leftmost.Text.Quoted

/-!
# Leftmost.Settings

What a scanner is set up with, and its JSON form. In JSON the settings are an object whose known
fields are all optional and may come in any order among others, which do not count; a known field
must not be repeated. An array gives the settings in order and may end early.

Both limits have to be positive. That is not part of the form: it is looked at on its own.
-/

namespace Leftmost

/-- Settings of a scanner. -/
structure Settings where
  engine : Engine := .backtracking
  /-- How often a backtracking search may go back. -/
  backtrackLimit : UInt64 := 1000000
  /-- How much room a compiled pattern may take, in bytes. -/
  sizeLimit : UInt64 := 10485760
  logLevel : String := "warn"
deriving DecidableEq, Repr

namespace Settings

/-- What is wrong with the limits, if anything is. -/
def validate (s : Settings) : Except String Unit :=
  if s.backtrackLimit = 0 then .error "backtrack_limit must be greater than 0"
  else if s.sizeLimit = 0 then .error "size_limit must be greater than 0"
  else .ok ()

/-! ## Fields -/

/-- An engine: its name, or an object that has the name for its only field and null for its
value. -/
def engineOf? : Json → Option Engine
  | .string (some name) => Engine.ofName? name
  | .object [(some name, .null)] => Engine.ofName? name
  | _ => none

/-- A limit: a natural number of 64 bits. -/
def limitOf? : Json → Option UInt64
  | .number (some n) => if n < UInt64.size then some (UInt64.ofNat n) else none
  | _ => none

def textOf? : Json → Option String
  | .string s => s
  | _ => none

/-- The names of the fields, in order. -/
def fieldNames : List String := ["engine", "backtrack_limit", "size_limit", "log_level"]

/-- Sets the field of a name; a name that is none of the fields' changes nothing. -/
def setField? (s : Settings) (name : String) (v : Json) : Option Settings :=
  match name with
  | "engine" => (engineOf? v).map fun e => { s with engine := e }
  | "backtrack_limit" => (limitOf? v).map fun n => { s with backtrackLimit := n }
  | "size_limit" => (limitOf? v).map fun n => { s with sizeLimit := n }
  | "log_level" => (textOf? v).map fun t => { s with logLevel := t }
  | _ => some s

/-! ## Reading -/

/-- Sets fields one after the other; `seen` lists the known ones set before. -/
def setFields? (seen : List String) (s : Settings) : List (Option String × Json) → Option Settings
  | [] => some s
  | (none, _) :: _ => none
  | (some name, v) :: rest =>
    if seen.contains name then none
    else
      match s.setField? name v with
      | some s => setFields? (if fieldNames.contains name then name :: seen else seen) s rest
      | none => none

/-- Sets fields in order, as many as there are values. -/
def setInOrder? (s : Settings) : List String → List Json → Option Settings
  | _, [] => some s
  | [], _ :: _ => none
  | name :: names, v :: vs => (s.setField? name v).bind fun s => setInOrder? s names vs

/-- The settings of a JSON value. -/
def ofJson? : Json → Option Settings
  | .object fields => setFields? [] {} fields
  | .array items => setInOrder? {} fieldNames items
  | _ => none

/-- Why a text is refused. -/
inductive ReadError where
  /-- It spells no settings. -/
  | notSettings
  | invalid (message : String)
deriving DecidableEq, Repr

/-- The wording of a refusal. -/
def ReadError.message : ReadError → String
  | notSettings => "not the JSON form of settings"
  | invalid message => message

/-- The settings that a text spells. -/
def read (text : String) : Except ReadError Settings :=
  match (Json.ofText? text).bind ofJson? with
  | none => .error .notSettings
  | some s =>
    match s.validate with
    | .ok () => .ok s
    | .error message => .error (.invalid message)

/-! ## Writing -/

/-- The JSON form. -/
def toJson (s : Settings) : String :=
  "\x7b\"engine\":" ++ Json.writeString s.engine.name ++
    ",\"backtrack_limit\":" ++ toString s.backtrackLimit ++
    ",\"size_limit\":" ++ toString s.sizeLimit ++
    ",\"log_level\":" ++ Json.writeString s.logLevel ++ "\x7d"

/-- How settings are shown. -/
def render (s : Settings) : String :=
  "ScannerConfig \x7b engine: " ++ s.engine.label ++
    ", backtrack_limit: " ++ toString s.backtrackLimit ++
    ", size_limit: " ++ toString s.sizeLimit ++
    ", log_level: " ++ Quoted.quote s.logLevel ++ " \x7d"

end Settings

end Leftmost
