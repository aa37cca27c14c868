import Leftmost.Json.Token

/-!
# Leftmost.Json.Value

JSON values from their tokens. Containers that are open are kept on a stack, so that a value may be
nested as deeply as its text says. A field's name and a string may lack a text, and objects keep all
their fields in order, repeated ones included: what to make of those is up to who reads the value.
-/

namespace Leftmost

/-- A JSON value. -/
inductive Json where
  | null
  | bool (b : Bool)
  | number (value : Option Nat)
  | string (text : Option String)
  | array (items : List Json)
  | object (fields : List (Option String × Json))
deriving Inhabited

namespace Json

/-- A container that is open; what it holds is listed backwards. -/
inductive Frame where
  | items (done : List Json)
  /-- The fields, and the name whose value is to come. -/
  | fields (done : List (Option String × Json)) (name : Option (Option String))

/-- What may come next. -/
inductive Want where
  | value
  | valueOrClose
  | name
  | nameOrClose
  | colon
  | commaOrClose
deriving DecidableEq

/-- How far a text has been read. -/
inductive Progress where
  | within (frames : List Frame) (want : Want)
  | complete (v : Json)

/-- Puts a value where it belongs. -/
def put (v : Json) : List Frame → Option Progress
  | [] => some (.complete v)
  | .items done :: frames => some (.within (.items (v :: done) :: frames) .commaOrClose)
  | .fields done (some name) :: frames =>
    some (.within (.fields ((name, v) :: done) none :: frames) .commaOrClose)
  | .fields _ none :: _ => none

/-- Takes one token. -/
def step (frames : List Frame) (want : Want) (t : Token) : Option Progress :=
  let isValue := want = .value ∨ want = .valueOrClose
  match t with
  | .null => if isValue then put null frames else none
  | .bool b => if isValue then put (bool b) frames else none
  | .number n => if isValue then put (number n) frames else none
  | .string s =>
    if isValue then put (string s) frames
    else if want = .name ∨ want = .nameOrClose then
      match frames with
      | .fields done none :: frames => some (.within (.fields done (some s) :: frames) .colon)
      | _ => none
    else none
  | .openBracket => if isValue then some (.within (.items [] :: frames) .valueOrClose) else none
  | .openBrace => if isValue then some (.within (.fields [] none :: frames) .nameOrClose) else none
  | .closeBracket =>
    if want = .valueOrClose ∨ want = .commaOrClose then
      match frames with
      | .items done :: frames => put (array done.reverse) frames
      | _ => none
    else none
  | .closeBrace =>
    if want = .nameOrClose ∨ want = .commaOrClose then
      match frames with
      | .fields done none :: frames => put (object done.reverse) frames
      | _ => none
    else none
  | .colon => if want = .colon then some (.within frames .value) else none
  | .comma =>
    if want = .commaOrClose then
      match frames with
      | .items _ :: _ => some (.within frames .value)
      | .fields _ _ :: _ => some (.within frames .name)
      | [] => none
    else none

/-- The value of tokens, going on from where a reading is. -/
def ofTokensFrom? : Progress → List Token → Option Json
  | .complete v, [] => some v
  | .within frames want, t :: ts =>
    match step frames want t with
    | some p => ofTokensFrom? p ts
    | none => none
  | _, _ => none

/-- The value that tokens spell. -/
def ofTokens? (ts : List Token) : Option Json := ofTokensFrom? (.within [] .value) ts

/-- The value of a text. -/
def ofText? (text : String) : Option Json := (tokens? text).bind ofTokens?

/-! ## Writing -/

/-- The digits of a number below 16. -/
def hexChar (n : Nat) : Char := Nat.digitChar n

/-- A character as it is written in a string. -/
def escapeChar (c : Char) : List Char :=
  match c with
  | '"' => ['\\', '"']
  | '\\' => ['\\', '\\']
  | '\x08' => ['\\', 'b']
  | '\x0c' => ['\\', 'f']
  | '\n' => ['\\', 'n']
  | '\r' => ['\\', 'r']
  | '\t' => ['\\', 't']
  | c =>
    if c.toNat < 0x20 then ['\\', 'u', '0', '0', hexChar (c.toNat / 16), hexChar (c.toNat % 16)]
    else [c]

/-- A string as it is written. -/
def writeString (s : String) : String :=
  String.ofList ('"' :: s.toList.flatMap escapeChar ++ ['"'])

end Json

end Leftmost
