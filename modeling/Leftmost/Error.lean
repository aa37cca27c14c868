import Leftmost.Handle
import Leftmost.Text.Quoted

/-!
# Leftmost.Error

What can go wrong, as causes. Every cause has a code; the codes are numbered for callers that only
see numbers.
-/

namespace Leftmost

/-- The codes of failures. -/
inductive ErrorCode where
  | normal
  | mismatch
  | memory
  | stackLimit
  | invalidArgument
  | invalidHandle
  | invalidSyntax
  | patternTooBig
  | unsupportedPattern
  | invalidCodePoint
deriving DecidableEq, Repr

namespace ErrorCode

def all : List ErrorCode :=
  [normal, mismatch, memory, stackLimit, invalidArgument, invalidHandle, invalidSyntax,
    patternTooBig, unsupportedPattern, invalidCodePoint]

/-- The number of a code. -/
def number : ErrorCode → Int
  | normal => 0
  | mismatch => -1
  | memory => -5
  | stackLimit => -15
  | invalidArgument => -30
  | invalidHandle => -31
  | invalidSyntax => -100
  | patternTooBig => -101
  | unsupportedPattern => -102
  | invalidCodePoint => -400

/-- The code of a number. -/
def ofNumber? (n : Int) : Option ErrorCode := all.find? fun c => c.number == n

/-- A number is read back as its code. -/
theorem ofNumber?_number (c : ErrorCode) : ofNumber? c.number = some c := by cases c <;> decide

def message : ErrorCode → String
  | normal => "no error"
  | mismatch => "mismatch"
  | memory => "fail to memory allocation"
  | stackLimit => "match-stack limit over"
  | invalidArgument => "invalid argument"
  | invalidHandle => "invalid pattern handle"
  | invalidSyntax => "invalid pattern syntax"
  | patternTooBig => "too big pattern"
  | unsupportedPattern => "unsupported pattern construct"
  | invalidCodePoint => "invalid code point value"

/-- The message of any number, those of no code included. -/
def describe (n : Int) : String :=
  match ofNumber? n with
  | some c => c.message
  | none => "undefined error code"

theorem describe_number (c : ErrorCode) : describe c.number = c.message := by
  rw [describe, ofNumber?_number]

/-- How a code is shown. -/
def render (c : ErrorCode) : String := s!"{c.message} ({c.number})"

end ErrorCode

/-- A search that failed. -/
structure SearchFailure where
  code : ErrorCode
  message : String
deriving DecidableEq, Repr

/-- How a failure is shown. -/
def SearchFailure.render (f : SearchFailure) : String := s!"{f.code.render}: {f.message}"

/-- Why a request was not carried out. -/
inductive ScanError where
  | badPattern (pattern : String) (code : ErrorCode) (message : String)
  /-- The search of the pattern at a position in the list failed. -/
  | badSearch (index : Nat) (code : ErrorCode) (message : String)
  | badHandle (handle : Handle)
  /-- The text of a pattern is not UTF-8. -/
  | badPatternText
  | badArgument (message : String)
  | badSettings (message : String)
deriving DecidableEq, Repr

namespace ScanError

/-- The failure of the search at a position in the list. -/
def ofFailure (index : Nat) (f : SearchFailure) : ScanError := badSearch index f.code f.message

def code : ScanError → ErrorCode
  | badPattern _ code _ | badSearch _ code _ => code
  | badHandle _ => .invalidHandle
  | badPatternText => .invalidCodePoint
  | badArgument _ | badSettings _ => .invalidArgument

/-- How an error is shown. -/
def render : ScanError → String
  | badPattern pattern _ message => s!"Invalid pattern {Quoted.quote pattern}: {message}"
  | badSearch index _ message => s!"Search failed for pattern #{index}: {message}"
  | badHandle handle => s!"Invalid pattern handle: {handle.render}"
  | badPatternText => "Pattern text is not valid UTF-8"
  | badArgument message => s!"Invalid argument: {message}"
  | badSettings message => s!"Invalid configuration: {message}"

end ScanError

end Leftmost
