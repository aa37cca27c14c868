import Leftmost.Proofs.Json.Lexed

/-!
# Leftmost.Proofs.Json.Nested

A text that spells a value is read as that value, however deeply it is nested.  Containers that are
open wait on a stack; the tokens of a value put that value where it belongs and leave what is below
it as it was:

* `separated_tokens` — the tokens of a value have something between any two numbers;
* `ofTokensFrom?_tokens` — the tokens of a value are read as that value, whatever is open;
* `Spells.ofText?_eq` — so is every text that spells it.
-/

namespace Leftmost

namespace Json

/-! ## Tokens of a value -/

theorem Separated.cons {t : Token} {ts : List Token} (h : Separated ts) (ht : ¬t.IsNumber) :
    Separated (t :: ts) :=
  List.IsChain.cons h fun _ _ hnumber => absurd hnumber ht

/-- What stands behind a value is no number. -/
def NoNumberFirst (ts : List Token) : Prop := ∀ t ∈ ts.head?, ¬t.IsNumber

theorem noNumberFirst_cons {t : Token} (ht : ¬t.IsNumber) (ts : List Token) :
    NoNumberFirst (t :: ts) := by
  rintro u ⟨⟩
  exact ht

mutual

/-- The tokens of a value have something between any two numbers. -/
theorem separated_tokens (v : Json) {ts : List Token} (h : Separated ts) (hts : NoNumberFirst ts) :
    Separated (v.tokens ++ ts) :=
  match v with
  | .null | .bool _ | .string _ => h.cons (by nofun)
  | .number _ => List.IsChain.cons h fun u hu _ => hts u hu
  | .array items => by
      rw [tokens, List.cons_append, List.append_assoc]
      exact (separated_itemTokens items (h.cons (by nofun))
        (noNumberFirst_cons (by nofun) _)).cons (by nofun)
  | .object fields => by
      rw [tokens, List.cons_append, List.append_assoc]
      exact (separated_fieldTokens fields (h.cons (by nofun))
        (noNumberFirst_cons (by nofun) _)).cons (by nofun)

theorem separated_itemTokens (items : List Json) {ts : List Token} (h : Separated ts)
    (hts : NoNumberFirst ts) : Separated (itemTokens items ++ ts) :=
  match items with
  | [] => h
  | [v] => separated_tokens v h hts
  | v :: w :: rest => by
      rw [itemTokens, List.append_assoc, List.cons_append]
      exact separated_tokens v ((separated_itemTokens (w :: rest) h hts).cons (by nofun))
        (noNumberFirst_cons (by nofun) _)

theorem separated_fieldTokens (fields : List (Option String × Json)) {ts : List Token}
    (h : Separated ts) (hts : NoNumberFirst ts) : Separated (fieldTokens fields ++ ts) :=
  match fields with
  | [] => h
  | [(_, v)] => ((separated_tokens v h hts).cons (by nofun)).cons (by nofun)
  | (_, v) :: f :: rest => by
      rw [fieldTokens, List.cons_append, List.cons_append, List.append_assoc, List.cons_append]
      exact ((separated_tokens v ((separated_fieldTokens (f :: rest) h hts).cons (by nofun))
        (noNumberFirst_cons (by nofun) _)).cons (by nofun)).cons (by nofun)

end

/-! ## Reading tokens -/

theorem ofTokensFrom?_cons (frames : List Frame) (want : Want) (t : Token) (ts : List Token) :
    ofTokensFrom? (.within frames want) (t :: ts) =
      (step frames want t).bind fun p => ofTokensFrom? p ts := by
  rw [ofTokensFrom?]
  cases step frames want t <;> rfl

/-- A comma is followed by another value, or by another name. -/
theorem ofTokensFrom?_comma_items (done : List Json) (frames : List Frame) (ts : List Token) :
    ofTokensFrom? (.within (.items done :: frames) .commaOrClose) (.comma :: ts) =
      ofTokensFrom? (.within (.items done :: frames) .value) ts := by
  rw [ofTokensFrom?_cons]
  rfl

theorem ofTokensFrom?_comma_fields (done : List (Option String × Json)) (frames : List Frame)
    (ts : List Token) :
    ofTokensFrom? (.within (.fields done none :: frames) .commaOrClose) (.comma :: ts) =
      ofTokensFrom? (.within (.fields done none :: frames) .name) ts := by
  rw [ofTokensFrom?_cons]
  rfl

/-- A name and the colon behind it. -/
theorem ofTokensFrom?_name {want : Want} (hwant : want = .name ∨ want = .nameOrClose)
    (done : List (Option String × Json)) (frames : List Frame) (name : Option String)
    (ts : List Token) :
    ofTokensFrom? (.within (.fields done none :: frames) want) (.string name :: .colon :: ts) =
      ofTokensFrom? (.within (.fields done (some name) :: frames) .value) ts := by
  have hcolon : ofTokensFrom? (.within (.fields done (some name) :: frames) .colon) (.colon :: ts) =
      ofTokensFrom? (.within (.fields done (some name) :: frames) .value) ts :=
    ofTokensFrom?_cons ..
  rw [ofTokensFrom?_cons, ← hcolon]
  rcases hwant with rfl | rfl <;> rfl

/-- A closing bracket puts what was listed where the list belongs. -/
theorem ofTokensFrom?_closeBracket {want : Want}
    (hwant : want = .valueOrClose ∨ want = .commaOrClose) (done : List Json) (frames : List Frame)
    (ts : List Token) :
    ofTokensFrom? (.within (.items done :: frames) want) (.closeBracket :: ts) =
      (put (array done.reverse) frames).bind fun p => ofTokensFrom? p ts := by
  rw [ofTokensFrom?_cons]
  rcases hwant with rfl | rfl <;> rfl

theorem ofTokensFrom?_closeBrace {want : Want}
    (hwant : want = .nameOrClose ∨ want = .commaOrClose) (done : List (Option String × Json))
    (frames : List Frame) (ts : List Token) :
    ofTokensFrom? (.within (.fields done none :: frames) want) (.closeBrace :: ts) =
      (put (object done.reverse) frames).bind fun p => ofTokensFrom? p ts := by
  rw [ofTokensFrom?_cons]
  rcases hwant with rfl | rfl <;> rfl

mutual

/-- The tokens of a value put it where it belongs, whatever is open. -/
theorem ofTokensFrom?_tokens (v : Json) {want : Want} (hwant : want = .value ∨ want = .valueOrClose)
    (frames : List Frame) (ts : List Token) :
    ofTokensFrom? (.within frames want) (v.tokens ++ ts) =
      (put v frames).bind fun p => ofTokensFrom? p ts :=
  match v with
  | .null | .bool _ | .number _ | .string _ => by
      rw [tokens, List.singleton_append, ofTokensFrom?_cons]
      rcases hwant with rfl | rfl <;> rfl
  | .array items => by
      rw [tokens, List.cons_append, List.append_assoc, List.singleton_append, ofTokensFrom?_cons,
        step, if_pos hwant]
      by_cases hitems : items = []
      · rw [hitems]
        exact ofTokensFrom?_closeBracket (.inl rfl) [] frames ts
      · exact ofTokensFrom?_itemTokens items hitems (.inr rfl) [] frames ts
  | .object fields => by
      rw [tokens, List.cons_append, List.append_assoc, List.singleton_append, ofTokensFrom?_cons,
        step, if_pos hwant]
      by_cases hfields : fields = []
      · rw [hfields]
        exact ofTokensFrom?_closeBrace (.inl rfl) [] frames ts
      · exact ofTokensFrom?_fieldTokens fields hfields (.inr rfl) [] frames ts

/-- So do the tokens of values in an array, up to the bracket that closes it. -/
theorem ofTokensFrom?_itemTokens (items : List Json) (hitems : items ≠ []) {want : Want}
    (hwant : want = .value ∨ want = .valueOrClose) (done : List Json) (frames : List Frame)
    (ts : List Token) :
    ofTokensFrom? (.within (.items done :: frames) want)
        (itemTokens items ++ .closeBracket :: ts) =
      (put (array (done.reverse ++ items)) frames).bind fun p => ofTokensFrom? p ts :=
  match items with
  | [] => absurd rfl hitems
  | [v] => by
      rw [itemTokens, ofTokensFrom?_tokens v hwant, put, Option.bind_some,
        ofTokensFrom?_closeBracket (.inr rfl), List.reverse_cons]
  | v :: w :: rest => by
      rw [itemTokens, List.append_assoc, List.cons_append, ofTokensFrom?_tokens v hwant, put,
        Option.bind_some, ofTokensFrom?_comma_items,
        ofTokensFrom?_itemTokens (w :: rest) (List.cons_ne_nil _ _) (.inl rfl), List.reverse_cons,
        List.append_assoc, List.singleton_append]

/-- And the tokens of fields in an object, up to the brace that closes it. -/
theorem ofTokensFrom?_fieldTokens (fields : List (Option String × Json)) (hfields : fields ≠ [])
    {want : Want} (hwant : want = .name ∨ want = .nameOrClose)
    (done : List (Option String × Json)) (frames : List Frame) (ts : List Token) :
    ofTokensFrom? (.within (.fields done none :: frames) want)
        (fieldTokens fields ++ .closeBrace :: ts) =
      (put (object (done.reverse ++ fields)) frames).bind fun p => ofTokensFrom? p ts :=
  match fields with
  | [] => absurd rfl hfields
  | [(name, v)] => by
      rw [fieldTokens, List.cons_append, List.cons_append, ofTokensFrom?_name hwant,
        ofTokensFrom?_tokens v (.inl rfl), put, Option.bind_some,
        ofTokensFrom?_closeBrace (.inr rfl), List.reverse_cons]
  | (name, v) :: f :: rest => by
      rw [fieldTokens, List.cons_append, List.cons_append, List.append_assoc, List.cons_append,
        ofTokensFrom?_name hwant, ofTokensFrom?_tokens v (.inl rfl), put, Option.bind_some,
        ofTokensFrom?_comma_fields,
        ofTokensFrom?_fieldTokens (f :: rest) (List.cons_ne_nil _ _) (.inl rfl), List.reverse_cons,
        List.append_assoc, List.singleton_append]

end

/-- The tokens of a value are read as that value. -/
theorem ofTokens?_tokens (v : Json) : ofTokens? v.tokens = some v := by
  rw [ofTokens?, ← List.append_nil v.tokens, ofTokensFrom?_tokens v (.inl rfl)]
  rfl

/-- A text that spells a value is read as that value. -/
theorem Spells.ofText?_eq {v : Json} {text : String} (h : Spells v text) :
    ofText? text = some v := by
  have hsep : Separated v.tokens := by
    rw [← List.append_nil v.tokens]
    exact separated_tokens v List.IsChain.nil nofun
  rw [ofText?, Spaced.tokens?_eq h hsep, Option.bind_some, ofTokens?_tokens]

end Json

end Leftmost
