import Leftmost.Scanner

/-!
# Leftmost.Boundary

A session for callers from outside, who pass addresses and lengths and get back numbers. An address
that is null is `none`. Every call answers 0 or -1; with -1 the code of the failure is kept until
the next call that fails, and a successful call leaves it alone. A failure is told as well, as the
last thing that its call tells.

The message of the code kept is read from a buffer of fixed size that every reading overwrites; a
zero byte ends it.
-/

namespace Leftmost

/-- What is kept between calls. -/
structure Session where
  registry : Registry
  lastError : Int
  /-- The buffer that messages are read from. -/
  buffer : ByteArray

namespace Session

/-- Size of the message buffer, with the zero byte that ends a message. -/
def bufferSize : Nat := 90

/-- A session that has just begun. -/
def initial (e : Engines := .builtIn) : Session :=
  { registry := .ofSettings {} e, lastError := 0, buffer := ⟨Array.replicate bufferSize 0⟩ }

/-- What a call answers. -/
inductive Answer where
  | succeeded
  | failed
deriving DecidableEq, Repr

/-- The number of an answer. -/
def Answer.number : Answer → Int
  | succeeded => 0
  | failed => -1

/-- What comes of a call: what it answers and, if it succeeds, what it writes for its caller, beside
what it tells and the session that it leaves. -/
abbrev Concluded (α : Type) := Logged (Answer × Option α) × Session

/-! ## Errors -/

/-- Keeps a code. -/
def recordError (s : Session) (code : ErrorCode) : Session := { s with lastError := code.number }

/-- Ends a call as the result of its request has it. The code of an error is kept, and the error is
told behind all else. -/
def conclude {α : Type} (s : Session) (result : Logged (Except ScanError α)) : Concluded α :=
  match result.value with
  | .ok a => ({ value := (.succeeded, some a), events := result.events }, s)
  | .error e =>
    ({ value := (.failed, none), events := result.events ++ [.callFailed e] },
      s.recordError e.code)

/-- Ends a call with an error before it has told anything. -/
def fail {α : Type} (s : Session) (e : ScanError) : Concluded α :=
  s.conclude { value := .error e, events := [] }

/-- Ends a call for a bad argument. -/
def failArgument {α : Type} (s : Session) (what : String) : Concluded α :=
  s.fail (.badArgument what)

/-! ## The message of a code -/

/-- Writes a text to the front of a buffer and ends it with a zero byte. -/
def writeMessage (buffer : ByteArray) (message : ByteArray) : ByteArray :=
  let n := min message.size (bufferSize - 1)
  message.extract 0 n ++ ⟨#[0]⟩ ++ buffer.extract (n + 1) buffer.size

/-- The bytes up to the first zero byte. -/
def untilZero (b : ByteArray) : ByteArray := ⟨(b.data.toList.takeWhile (· != 0)).toArray⟩

/-- Writes the message of the code kept to the buffer. -/
def writeLastError (s : Session) : Session :=
  { s with buffer := writeMessage s.buffer (ErrorCode.describe s.lastError).toUTF8 }

/-- The message in the buffer. -/
def message (s : Session) : ByteArray := untilZero s.buffer

/-! ## Calls -/

/-- The list of a length at an address; none if the length is negative, or if it is positive and
the address is null. -/
def listAt? {α : Type} (address : Option (List α)) (count : Int) : Option (List α) :=
  if count < 0 then none
  else if count = 0 then some []
  else address.map (List.take count.toNat)

/-- The same for bytes. -/
def bytesAt? (address : Option ByteArray) (count : Int) : Option ByteArray :=
  if count < 0 then none
  else if count = 0 then some .empty
  else address.map fun b => b.extract 0 count.toNat

/-- Compiles the pattern at an address, up to the first zero byte; the packed token is written where
`hasOutput` says there is room for it. -/
def compile (s : Session) (pattern : Option ByteArray) (hasOutput : Bool) : Concluded UInt64 :=
  match pattern, hasOutput with
  | some pattern, true =>
    let (compiled, r) := s.registry.compileBytes (untilZero pattern)
    { s with registry := r }.conclude (compiled.map (Except.map Handle.toRaw))
  | _, _ => s.failArgument "null pointer passed to compilePattern"

/-- Gives up the patterns of packed tokens; words that are none count for nothing. -/
def dispose (s : Session) (patterns : Option (List UInt64)) (count : Int) : Concluded Unit :=
  match listAt? patterns count with
  | none => s.failArgument "bad pattern list passed to disposeCompiledPatterns"
  | some raws =>
    let (disposed, r) := s.registry.dispose (raws.filterMap Handle.ofRaw?)
    { s with registry := r }.conclude (disposed.map .ok)

/-- The tokens of packed ones, if all of them are tokens. -/
def handlesOf? (raws : List UInt64) : Option (List Handle) := raws.mapM Handle.ofRaw?

/-- Searches a text with the patterns of packed tokens. The three words of the result are written
where `hasOutput` says there is room for them: the position of the pattern, the offsets and their
number. A negative start counts as 0. -/
def findBest (s : Session) (patterns : Option (List UInt64)) (count : Int)
    (text : Option ByteArray) (length start : Int) (hasOutput : Bool) :
    Concluded (Nat × Option (Array Offset) × Nat) :=
  if !hasOutput then s.failArgument "null result buffer passed to findBestMatch"
  else
    match listAt? patterns count with
    | none => s.failArgument "bad pattern list passed to findBestMatch"
    | some raws =>
      match bytesAt? text length with
      | none => s.failArgument "bad haystack passed to findBestMatch"
      | some haystack =>
        match handlesOf? raws with
        | none => s.failArgument "null pattern handle"
        | some handles =>
          s.conclude ((s.registry.findBest handles haystack start.toNat).map
            (Except.map FlatMatch.handOver))

/-- Takes over the settings whose JSON form is at an address, up to the first zero byte. -/
def configure (s : Session) (json : Option ByteArray) : Concluded Unit :=
  match json with
  | none => s.failArgument "null pointer passed to configureScanner"
  | some json =>
    match String.fromUTF8? (untilZero json) with
    | none => s.fail (.badSettings "configuration is not valid UTF-8")
    | some text =>
      match Settings.read text with
      | .error e => s.fail (.badSettings e.message)
      | .ok settings =>
        { s with registry := s.registry.reconfigure settings }.conclude
          { value := .ok (), events := [.reconfigured settings] }

end Session

end Leftmost
