import Leftmost.Json.Value
import Leftmost.Text.Surrogate

/-!
# Leftmost.Proofs.Json.Spelling

The grammar of JSON, apart from any reader: which texts spell a value.  It has two layers. A value
is a row of tokens, one behind the other (`tokens`); a text spells a row of tokens if it is their
texts in order, with white space in front of, between and behind them (`Spaced`).

* `NumberSpelt` — a number, which has a value if it is written as a natural number;
* `StringSpelt` — the inside of a string, which has a text if its units are those of one;
* `Token.Spelt`, `Spaced` — a token, a row of tokens;
* `Spells` — a text spells a value.
-/

namespace Leftmost

namespace Json

/-! ## Numbers -/

/-- Decimal digits, at least one. -/
structure IsDigits (ds : List Char) : Prop where
  ne_nil : ds ≠ []
  all : ∀ c ∈ ds, isDigit c = true

/-- The whole part of a number. A leading zero stands alone. -/
structure IsWhole (ds : List Char) : Prop extends IsDigits ds where
  leading_zero : ds.head? = some '0' → ds = ['0']

/-- The fraction of a number, if there is one. -/
inductive IsFraction : List Char → Prop where
  | absent : IsFraction []
  | digits {ds : List Char} : IsDigits ds → IsFraction ('.' :: ds)

/-- The exponent of a number, if there is one. -/
inductive IsExponent : List Char → Prop where
  | absent : IsExponent []
  | digits {e : Char} {sign ds : List Char} : e = 'e' ∨ e = 'E' →
      sign = [] ∨ sign = ['+'] ∨ sign = ['-'] → IsDigits ds → IsExponent (e :: (sign ++ ds))

/-- A number, with its value if it is written as a natural number. -/
inductive NumberSpelt : Option Nat → List Char → Prop where
  | natural {ds : List Char} : IsWhole ds → NumberSpelt (some (digitsValue ds)) ds
  | other {sign ds fraction exponent : List Char} : sign = [] ∨ sign = ['-'] → IsWhole ds →
      IsFraction fraction → IsExponent exponent →
      sign ≠ [] ∨ fraction ≠ [] ∨ exponent ≠ [] →
      NumberSpelt none (sign ++ (ds ++ (fraction ++ exponent)))

/-! ## Strings -/

/-- The units that a piece of a string stands for. -/
def Piece.units : Piece → List Unit16
  | .char c => Unit16.ofChar c
  | .unit u => [u]

/-- How a piece of a string is written. -/
inductive Piece.Spelt : Piece → List Char → Prop where
  | plain {c : Char} : c ≠ '"' → c ≠ '\\' → 0x20 ≤ c.toNat → Piece.Spelt (.char c) [c]
  | escape {e c : Char} : letterEscape? e = some c → Piece.Spelt (.char c) ['\\', e]
  | unit {a b c d : Char} {w x y z : Nat} : hexDigit? a = some w → hexDigit? b = some x →
      hexDigit? c = some y → hexDigit? d = some z →
      Piece.Spelt (.unit (((w * 16 + x) * 16 + y) * 16 + z).toUInt16) ['\\', 'u', a, b, c, d]

/-- How pieces are written, one behind the other. -/
inductive PiecesSpelt : List Piece → List Char → Prop where
  | nil : PiecesSpelt [] []
  | cons {p : Piece} {ps : List Piece} {cs rest : List Char} : p.Spelt cs → PiecesSpelt ps rest →
      PiecesSpelt (p :: ps) (cs ++ rest)

/-- The inside of a string. It has a text if the units it stands for are those of a text. -/
def StringSpelt (text : Option String) (cs : List Char) : Prop :=
  ∃ ps, PiecesSpelt ps cs ∧
    ∀ s, text = some s ↔ ps.flatMap Piece.units = (Unit16.ofString s).toList

/-! ## Tokens -/

/-- How a token is written. -/
inductive Token.Spelt : Token → List Char → Prop where
  | openBrace : Token.Spelt .openBrace ['\x7b']
  | closeBrace : Token.Spelt .closeBrace ['\x7d']
  | openBracket : Token.Spelt .openBracket ['[']
  | closeBracket : Token.Spelt .closeBracket [']']
  | colon : Token.Spelt .colon [':']
  | comma : Token.Spelt .comma [',']
  | nullWord : Token.Spelt .null ['n', 'u', 'l', 'l']
  | trueWord : Token.Spelt (.bool true) ['t', 'r', 'u', 'e']
  | falseWord : Token.Spelt (.bool false) ['f', 'a', 'l', 's', 'e']
  | number {n : Option Nat} {cs : List Char} : NumberSpelt n cs → Token.Spelt (.number n) cs
  | string {s : Option String} {cs : List Char} : StringSpelt s cs →
      Token.Spelt (.string s) ('"' :: (cs ++ ['"']))

/-- White space. -/
def IsBlank (cs : List Char) : Prop := ∀ c ∈ cs, isSpace c = true

/-- How tokens are written: one behind the other, with white space anywhere around them. -/
inductive Spaced : List Token → List Char → Prop where
  | nil {blank : List Char} : IsBlank blank → Spaced [] blank
  | cons {t : Token} {ts : List Token} {blank cs rest : List Char} : IsBlank blank → t.Spelt cs →
      Spaced ts rest → Spaced (t :: ts) (blank ++ (cs ++ rest))

/-! ## Values -/

mutual

/-- The tokens of a value. -/
def tokens : Json → List Token
  | .null => [.null]
  | .bool b => [.bool b]
  | .number n => [.number n]
  | .string s => [.string s]
  | .array items => .openBracket :: (itemTokens items ++ [.closeBracket])
  | .object fields => .openBrace :: (fieldTokens fields ++ [.closeBrace])

/-- The tokens of values with commas in between. -/
def itemTokens : List Json → List Token
  | [] => []
  | [v] => v.tokens
  | v :: w :: rest => v.tokens ++ .comma :: itemTokens (w :: rest)

/-- The tokens of fields with commas in between. -/
def fieldTokens : List (Option String × Json) → List Token
  | [] => []
  | [(name, v)] => .string name :: .colon :: v.tokens
  | (name, v) :: f :: rest =>
    .string name :: .colon :: (v.tokens ++ .comma :: fieldTokens (f :: rest))

end

/-- A text spells a value. -/
def Spells (v : Json) (text : String) : Prop := Spaced v.tokens text.toList

end Json

end Leftmost
