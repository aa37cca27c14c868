import Leftmost.Unicode.Printing

/-!
# Leftmost.Text.Quoted

Text in double quotes, as error messages, log lines and summaries show it: a reader can tell every
character apart. What has a picture of its own stands for itself. The rest is escaped: the common
controls by a letter, everything else by its code point in hexadecimal between braces.
-/

namespace Leftmost.Quoted

/-- The digits of `n` in base sixteen, lower case and without leading zeros. -/
def hex (n : Nat) : String := String.ofList (Nat.toDigits 16 n)

/-- The escapes that have a short form. -/
def shortEscape : Char → Option Char
  | '\x00' => some '0'
  | '\t' => some 't'
  | '\n' => some 'n'
  | '\r' => some 'r'
  | '"' => some '"'
  | '\\' => some '\\'
  | _ => none

/-- Whether a character is shown by its code point. -/
def byNumber (c : Char) : Bool :=
  Unicode.extending.contains c.toNat || Unicode.unprintable.contains c.toNat

/-- A character as it stands between the quotes. -/
def escape (c : Char) : String :=
  match shortEscape c with
  | some e => String.ofList ['\\', e]
  | none =>
    if byNumber c then "\\u" ++ "\x7b" ++ hex c.toNat ++ "\x7d" else c.toString

/-- A text in quotes. -/
def quote (s : String) : String :=
  s.foldl (fun out c => out ++ escape c) "\"" ++ "\""

end Leftmost.Quoted
