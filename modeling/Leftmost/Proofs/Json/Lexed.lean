import Leftmost.Proofs.Json.Spelling
import Leftmost.Proofs.Text.Cut
import Mathlib.Data.List.Chain

/-!
# Leftmost.Proofs.Json.Lexed

A text that spells a row of tokens is read as that row.  Every token is read up to its end and not
beyond; only a number could go on into what follows, so that two numbers must not be neighbours:

* `unsigned?_append`, `NumberSpelt.number?_append` — a number is read up to where it ends;
* `PiecesSpelt.pieces?_append`, `charsOf?_eq_some_iff` — so is the inside of a string, which has a
  text exactly if its units are those of one;
* `Token.Spelt.token?_append` — so is every token;
* `Spaced.tokens?_eq` — a row of tokens is read whole, white space left out.
-/

namespace Leftmost

namespace Json

/-! ## Numbers -/

/-- What follows is not part of a number. -/
def EndsNumber (rest : List Char) : Prop :=
  ∀ c ∈ rest.head?, isDigit c = false ∧ c ≠ '.' ∧ c ≠ 'e' ∧ c ≠ 'E'

theorem takeWhile_isDigit_of_head {rest : List Char} (h : ∀ c ∈ rest.head?, isDigit c = false) :
    rest.takeWhile isDigit = [] := by
  cases rest with
  | nil => rfl
  | cons c rest => exact List.takeWhile_cons_of_neg (by simp [h c rfl])

/-- Digits are read up to the first character that is none. -/
theorem digits?_append {ds rest : List Char} (hds : IsDigits ds)
    (hrest : ∀ c ∈ rest.head?, isDigit c = false) : digits? (ds ++ rest) = some (ds, rest) := by
  have htake : (ds ++ rest).takeWhile isDigit = ds := by
    rw [List.takeWhile_append_of_pos hds.all, takeWhile_isDigit_of_head hrest, List.append_nil]
  have hempty : ds.isEmpty = false := by simpa using hds.ne_nil
  simp only [digits?, htake, hempty, Bool.false_eq_true, if_false, List.drop_left]

theorem fraction?_append {fraction rest : List Char} (h : IsFraction fraction)
    (hrest : ∀ c ∈ rest.head?, isDigit c = false ∧ c ≠ '.') :
    fraction? (fraction ++ rest) = some (decide (fraction ≠ []), rest) := by
  cases h with
  | absent =>
      cases rest with
      | nil => rfl
      | cons c rest =>
          have hc : c ≠ '.' := (hrest c rfl).2
          simp [fraction?, hc]
  | digits hds =>
      rw [List.cons_append, fraction?, digits?_append hds fun c hc => (hrest c hc).1]
      simp

theorem exponent?_append {exponent rest : List Char} (h : IsExponent exponent)
    (hrest : ∀ c ∈ rest.head?, isDigit c = false ∧ c ≠ 'e' ∧ c ≠ 'E') :
    exponent? (exponent ++ rest) = some (decide (exponent ≠ []), rest) := by
  cases h with
  | absent =>
      cases rest with
      | nil => rfl
      | cons c rest =>
          obtain ⟨-, he, hE⟩ := hrest c rfl
          simp [exponent?, he, hE]
  | @digits e sign ds he hsign hds =>
      have hread := digits?_append hds fun c hc => (hrest c hc).1
      rcases hsign with rfl | rfl | rfl
      · -- The first digit is no sign.
        obtain ⟨d, ds, rfl⟩ := List.exists_cons_of_ne_nil hds.ne_nil
        have hd : isDigit d = true := hds.all d List.mem_cons_self
        have hplus : d ≠ '+' := fun h => by simp [h, isDigit] at hd
        have hminus : d ≠ '-' := fun h => by simp [h, isDigit] at hd
        rw [List.cons_append] at hread
        simp [exponent?, he, hplus, hminus, hread]
      · simp [exponent?, he, hread]
      · simp [exponent?, he, hread]

theorem IsFraction.head?_append {fraction : List Char} (h : IsFraction fraction)
    (rest : List Char) :
    (fraction ++ rest).head? = rest.head? ∨ (fraction ++ rest).head? = some '.' := by
  cases h with
  | absent => exact .inl rfl
  | digits => exact .inr rfl

theorem IsExponent.head?_append {exponent : List Char} (h : IsExponent exponent)
    (rest : List Char) :
    (exponent ++ rest).head? = rest.head? ∨ (exponent ++ rest).head? = some 'e' ∨
      (exponent ++ rest).head? = some 'E' := by
  cases h with
  | absent => exact .inl rfl
  | digits he =>
      rcases he with rfl | rfl
      · exact .inr (.inl rfl)
      · exact .inr (.inr rfl)

/-- A number without a sign is read up to its end. -/
theorem unsigned?_append {ds fraction exponent rest : List Char} (hds : IsWhole ds)
    (hfraction : IsFraction fraction) (hexponent : IsExponent exponent) (hrest : EndsNumber rest) :
    unsigned? (ds ++ (fraction ++ (exponent ++ rest))) =
      some (if fraction ≠ [] ∨ exponent ≠ [] then none else some (digitsValue ds), rest) := by
  have hexp : ∀ c ∈ (exponent ++ rest).head?, isDigit c = false ∧ c ≠ '.' := by
    intro c hc
    rcases hexponent.head?_append rest with h | h | h <;> rw [h] at hc
    · exact ⟨(hrest c hc).1, (hrest c hc).2.1⟩
    · cases hc
      decide
    · cases hc
      decide
  have hfrac : ∀ c ∈ (fraction ++ (exponent ++ rest)).head?, isDigit c = false := by
    intro c hc
    rcases hfraction.head?_append (exponent ++ rest) with h | h <;> rw [h] at hc
    · exact (hexp c hc).1
    · cases hc
      decide
  have hbroken := fraction?_append hfraction hexp
  have hend : ∀ c ∈ rest.head?, isDigit c = false ∧ c ≠ 'e' ∧ c ≠ 'E' := fun c hc =>
    ⟨(hrest c hc).1, (hrest c hc).2.2⟩
  have hscaled := exponent?_append hexponent hend
  obtain ⟨d, ds', rfl⟩ := List.exists_cons_of_ne_nil hds.ne_nil
  by_cases hd : d = '0'
  · -- Nothing is read on behind a zero.
    have hzero : d :: ds' = ['0'] := hds.leading_zero (by rw [hd]; rfl)
    simp [unsigned?, hzero, hbroken, hscaled]
  · have hread := digits?_append hds.toIsDigits hfrac
    rw [List.cons_append] at hread ⊢
    simp [unsigned?, hd, hread, hbroken, hscaled]

theorem head?_ne_minus {ds rest : List Char} (hds : IsDigits ds) (cs : List Char) :
    ds ++ rest ≠ '-' :: cs := by
  obtain ⟨d, ds, rfl⟩ := List.exists_cons_of_ne_nil hds.ne_nil
  intro h
  have hd : isDigit d = true := hds.all d List.mem_cons_self
  rw [List.cons_append, List.cons.injEq] at h
  simp [h.1, isDigit] at hd

/-- A number is read up to its end, with its value. -/
theorem NumberSpelt.number?_append {n : Option Nat} {cs rest : List Char} (h : NumberSpelt n cs)
    (hrest : EndsNumber rest) : number? (cs ++ rest) = some (n, rest) := by
  cases h with
  | natural hds =>
      have hread := unsigned?_append hds .absent .absent hrest
      simp only [List.nil_append] at hread
      rw [number?.eq_def]
      split
      · next heq => exact absurd heq (head?_ne_minus hds.toIsDigits _)
      · simpa using hread
  | @other sign ds fraction exponent hsign hds hfraction hexponent hwhole =>
      have hread := unsigned?_append hds hfraction hexponent hrest
      rcases hsign with rfl | rfl
      · rw [if_pos (hwhole.resolve_left fun h => h rfl)] at hread
        simp only [List.nil_append, List.append_assoc]
        rw [number?.eq_def]
        split
        · next heq => exact absurd heq (head?_ne_minus hds.toIsDigits _)
        · exact hread
      · simp [number?, hread]

/-! ## Strings -/

theorem pieces?_cons_char (done : List Piece) {c : Char} (rest : List Char) (hquote : c ≠ '"')
    (hslash : c ≠ '\\') (hprinting : 0x20 ≤ c.toNat) :
    pieces? done (c :: rest) = pieces? (.char c :: done) rest := by
  simp [pieces?, hslash, Nat.not_lt.mpr hprinting]

theorem pieces?_cons_escape (done : List Piece) {e c : Char} (rest : List Char)
    (h : letterEscape? e = some c) :
    pieces? done ('\\' :: e :: rest) = pieces? (.char c :: done) rest := by
  have hu : e ≠ 'u' := by
    rintro rfl
    cases h
  simp [pieces?, hu, h]

theorem pieces?_cons_unit (done : List Piece) {a b c d : Char} {w x y z : Nat} (rest : List Char)
    (ha : hexDigit? a = some w) (hb : hexDigit? b = some x) (hc : hexDigit? c = some y)
    (hd : hexDigit? d = some z) : pieces? done ('\\' :: 'u' :: a :: b :: c :: d :: rest) =
      pieces? (.unit (((w * 16 + x) * 16 + y) * 16 + z).toUInt16 :: done) rest := by
  rw [pieces?, ha, hb, hc, hd]

theorem Piece.Spelt.pieces?_append {p : Piece} {cs : List Char} (h : p.Spelt cs)
    (done : List Piece) (rest : List Char) :
    pieces? done (cs ++ rest) = pieces? (p :: done) rest := by
  cases h with
  | plain hquote hslash hprinting => exact pieces?_cons_char done rest hquote hslash hprinting
  | escape he => exact pieces?_cons_escape done rest he
  | unit ha hb hc hd => exact pieces?_cons_unit done rest ha hb hc hd

/-- The inside of a string is read up to the closing quote. -/
theorem PiecesSpelt.pieces?_append {ps : List Piece} {cs : List Char} (h : PiecesSpelt ps cs)
    (done : List Piece) (rest : List Char) :
    pieces? done (cs ++ '"' :: rest) = some (done.reverse ++ ps, rest) := by
  induction h generalizing done with
  | nil => simp [pieces?]
  | cons hp _ ih =>
      rw [List.append_assoc, hp.pieces?_append, ih, List.reverse_cons, List.append_assoc,
        List.singleton_append]

/-! ### Units -/

/-- Units that begin with those of a character are units of characters only if the rest are. -/
theorem ofChar_append_eq_ofChars_iff {c : Char} {us : List Unit16} {cs : List Char} :
    Unit16.ofChar c ++ us = Unit16.ofChars cs ↔
      ∃ ds, cs = c :: ds ∧ us = Unit16.ofChars ds := by
  constructor
  · intro h
    have hdec := congrArg Unit16.decode h
    rw [Unit16.decode_ofChar_append, Unit16.decode_ofChars] at hdec
    cases cs with
    | nil => cases hdec
    | cons d ds =>
        obtain rfl : c = d := congrArg Prod.fst (List.cons.inj hdec).1
        refine ⟨ds, rfl, ?_⟩
        rw [Unit16.ofChars, List.flatMap_cons] at h
        exact List.append_cancel_left h
  · rintro ⟨ds, rfl, rfl⟩
    rfl

/-- A surrogate that begins no pair is no part of a text. -/
theorem cons_ne_ofChars {u : Unit16} {us : List Unit16} (hu : (u.isHigh || u.isLow) = true)
    (halone : Unit16.splitsPair (u :: us) 1 = false) (cs : List Char) :
    u :: us ≠ Unit16.ofChars cs := by
  intro h
  have hdec := congrArg Unit16.decode h
  rw [Unit16.decode_of_not_splitsPair halone, Unit16.decode_ofChars] at hdec
  cases cs with
  | nil => cases hdec
  | cons c cs =>
      obtain rfl : Unit16.single u = c := congrArg Prod.fst (List.cons.inj hdec).1
      rw [Unit16.ofChars, List.flatMap_cons, Unit16.ofChar_single, if_pos hu,
        List.singleton_append, List.cons.injEq] at h
      rw [h.1] at hu
      cases hu

/-- No character begins with a low surrogate. -/
theorem exists_ofChar_eq_cons (c : Char) :
    ∃ v vs, Unit16.ofChar c = v :: vs ∧ v.isLow = false := by
  have hvalid : c.toNat < 0xd800 ∨ 0xdfff < c.toNat ∧ c.toNat < 0x110000 := c.valid
  unfold Unit16.ofChar
  split
  · next hc =>
    refine ⟨_, _, rfl, ?_⟩
    rw [Bool.eq_false_iff, ne_eq, Unit16.isLow_iff, UInt16.toNat_ofNat_of_lt' hc]
    omega
  · refine ⟨_, _, rfl, ?_⟩
    rw [Bool.eq_false_iff, ne_eq, Unit16.isLow_iff,
      UInt16.toNat_ofNat_of_lt' (by unfold UInt16.size; omega)]
    omega

theorem splitsPair_cons_ofChar (u : Unit16) (c : Char) (us : List Unit16) :
    Unit16.splitsPair (u :: (Unit16.ofChar c ++ us)) 1 = false := by
  obtain ⟨v, vs, hc, hv⟩ := exists_ofChar_eq_cons c
  simp [hc, Unit16.splitsPair, hv]

theorem nil_eq_ofChars_iff {cs : List Char} : [] = Unit16.ofChars cs ↔ cs = [] := by
  cases cs with
  | nil => simp [Unit16.ofChars]
  | cons c cs =>
      obtain ⟨v, vs, hc, -⟩ := exists_ofChar_eq_cons c
      simp [Unit16.ofChars, hc]

theorem ofChar_single_of_not {u : Unit16} (h : ¬(u.isHigh || u.isLow) = true) :
    Unit16.ofChar (Unit16.single u) = [u] := by
  rw [Unit16.ofChar_single, if_neg h]

/-- A unit that is a character in front of others. -/
theorem cons_eq_ofChars_iff {u : Unit16} {us : List Unit16} {cs : List Char}
    (h : ¬(u.isHigh || u.isLow) = true) : u :: us = Unit16.ofChars cs ↔
      ∃ ds, cs = Unit16.single u :: ds ∧ us = Unit16.ofChars ds := by
  rw [← ofChar_append_eq_ofChars_iff, ofChar_single_of_not h]
  rfl

theorem map_cons_eq_some_iff {x : Option (List Char)} {c : Char} {cs : List Char} :
    x.map (c :: ·) = some cs ↔ ∃ ds, cs = c :: ds ∧ x = some ds := by
  cases x <;> simp [eq_comm]

/-- Pieces have characters exactly if their units are units of characters. -/
theorem charsOf?_eq_some_iff (ps : List Piece) (cs : List Char) :
    charsOf? ps = some cs ↔ ps.flatMap Piece.units = Unit16.ofChars cs := by
  fun_induction charsOf? ps generalizing cs with
  | case1 =>
      rw [List.flatMap_nil, nil_eq_ofChars_iff, Option.some.injEq, eq_comm]
  | case2 c rest ih =>
      rw [map_cons_eq_some_iff, List.flatMap_cons, Piece.units, ofChar_append_eq_ofChars_iff]
      simp only [ih]
  | case3 u hu =>
      have halone : Unit16.splitsPair [u] 1 = false := by simp [Unit16.splitsPair]
      simp [Piece.units, cons_ne_ofChars hu halone]
  | case4 u hu =>
      rw [List.flatMap_singleton, Piece.units, cons_eq_ofChars_iff hu]
      simp only [nil_eq_ofChars_iff, exists_eq_right, Option.some.injEq]
      exact eq_comm
  | case5 u v rest huv ih =>
      obtain ⟨hu, hv⟩ := Bool.and_eq_true_iff.mp huv
      have hpair : (Piece.unit u :: .unit v :: rest).flatMap Piece.units =
          Unit16.ofChar (Unit16.pair u v) ++ rest.flatMap Piece.units := by
        rw [Unit16.ofChar_pair hu hv]
        rfl
      rw [map_cons_eq_some_iff, hpair, ofChar_append_eq_ofChars_iff]
      simp only [ih]
  | case6 u v rest huv hu =>
      have halone : Unit16.splitsPair (u :: v :: rest.flatMap Piece.units) 1 = false := by
        simpa [Unit16.splitsPair] using huv
      simp [Piece.units, cons_ne_ofChars hu halone]
  | case7 u v rest huv hu ih =>
      rw [map_cons_eq_some_iff, List.flatMap_cons, Piece.units, List.singleton_append,
        cons_eq_ofChars_iff hu]
      simp only [ih]
  | case8 u c rest hu =>
      simp [Piece.units, cons_ne_ofChars hu (splitsPair_cons_ofChar u c _)]
  | case9 u c rest hu ih =>
      have hboth : (charsOf? rest).map (fun cs => Unit16.single u :: c :: cs) =
          ((charsOf? rest).map (c :: ·)).map (Unit16.single u :: ·) := by
        rw [Option.map_map]
        rfl
      rw [hboth, map_cons_eq_some_iff, List.flatMap_cons, Piece.units, List.singleton_append,
        cons_eq_ofChars_iff hu, List.flatMap_cons, Piece.units]
      simp only [map_cons_eq_some_iff, ofChar_append_eq_ofChars_iff, ih]

/-- The inside of a string is read up to the closing quote, with its text. -/
theorem StringSpelt.string?_append {text : Option String} {cs : List Char}
    (h : StringSpelt text cs) (rest : List Char) :
    string? (cs ++ '"' :: rest) = some (text, rest) := by
  obtain ⟨ps, hps, htext⟩ := h
  have hread : (charsOf? ps).map String.ofList = text := by
    ext s
    rw [htext, Unit16.toList_ofString, ← charsOf?_eq_some_iff, Option.map_eq_some_iff]
    constructor
    · rintro ⟨cs, hcs, rfl⟩
      rwa [String.toList_ofList]
    · intro hs
      exact ⟨s.toList, hs, String.ofList_toList⟩
  rw [string?, hps.pieces?_append, ← hread]
  rfl

/-! ## Tokens -/

theorem NumberSpelt.exists_cons {n : Option Nat} {cs : List Char} (h : NumberSpelt n cs) :
    ∃ c rest, cs = c :: rest ∧ (isDigit c = true ∨ c = '-') := by
  cases h with
  | natural hds =>
      obtain ⟨d, ds, rfl⟩ := List.exists_cons_of_ne_nil hds.ne_nil
      exact ⟨d, ds, rfl, .inl (hds.all d List.mem_cons_self)⟩
  | other hsign hds =>
      obtain ⟨d, ds, rfl⟩ := List.exists_cons_of_ne_nil hds.ne_nil
      rcases hsign with rfl | rfl
      · exact ⟨d, _, rfl, .inl (hds.all d List.mem_cons_self)⟩
      · exact ⟨'-', _, rfl, .inr rfl⟩

/-- No number begins with a character that is neither a digit nor a minus sign. -/
theorem forall_ne_of_number {c : Char} (hc : isDigit c = true ∨ c = '-') {ds : List Char}
    (hds : ∀ d ∈ ds, ¬(isDigit d = true ∨ d = '-')) : ∀ d ∈ ds, c ≠ d :=
  fun d hd h => hds d hd (h ▸ hc)

/-- What begins as a number is read as one. -/
theorem token?_of_number {c : Char} (hc : isDigit c = true ∨ c = '-') (cs : List Char) :
    token? (c :: cs) = (number? (c :: cs)).map fun (n, cs) => (.number n, cs) := by
  have hne : ∀ d ∈ ['\x7b', '\x7d', '[', ']', ':', ',', '"', 'n', 't', 'f'], c ≠ d :=
    forall_ne_of_number hc (by simp [isDigit])
  simp only [List.mem_cons, List.not_mem_nil, or_false, forall_eq_or_imp, forall_eq] at hne
  simp [token?, hne]

def Token.IsNumber (t : Token) : Prop := ∃ n, t = .number n

/-- A token is read up to its end, if a number does not go on behind it. -/
theorem Token.Spelt.token?_append {t : Token} {cs rest : List Char} (h : t.Spelt cs)
    (hrest : t.IsNumber → EndsNumber rest) : token? (cs ++ rest) = some (t, rest) := by
  cases h with
  | openBrace | closeBrace | openBracket | closeBracket | colon | comma => rfl
  | nullWord | trueWord | falseWord => simp [token?, word?]
  | @number n cs hn =>
      obtain ⟨c, cs, rfl, hc⟩ := hn.exists_cons
      rw [List.cons_append, token?_of_number hc, ← List.cons_append,
        hn.number?_append (hrest ⟨n, rfl⟩), Option.map_some]
  | @string s cs hs =>
      rw [List.cons_append, List.append_assoc, List.singleton_append, token?, hs.string?_append,
        Option.map_some]

/-- A token begins with no white space. -/
theorem Token.Spelt.exists_cons {t : Token} {cs : List Char} (h : t.Spelt cs) :
    ∃ c rest, cs = c :: rest ∧ isSpace c = false := by
  cases h with
  | number hn =>
      obtain ⟨c, cs, rfl, hc⟩ := hn.exists_cons
      refine ⟨c, cs, rfl, ?_⟩
      have hne : ∀ d ∈ [' ', '\t', '\n', '\r'], c ≠ d :=
        forall_ne_of_number hc (by simp [isDigit])
      simp only [List.mem_cons, List.not_mem_nil, or_false, forall_eq_or_imp, forall_eq] at hne
      simp [isSpace, hne]
  | _ => exact ⟨_, _, rfl, rfl⟩

theorem endsNumber_of_isSpace {c : Char} (h : isSpace c = true) (rest : List Char) :
    EndsNumber (c :: rest) := by
  rintro d ⟨⟩
  have hblank : c = ' ' ∨ c = '\t' ∨ c = '\n' ∨ c = '\r' := by simpa [isSpace, or_assoc] using h
  rcases hblank with rfl | rfl | rfl | rfl <;> decide

/-- A number ends before any token but a number. -/
theorem Token.Spelt.endsNumber {t : Token} {cs : List Char} (h : t.Spelt cs) (ht : ¬t.IsNumber)
    (rest : List Char) : EndsNumber (cs ++ rest) := by
  cases h with
  | number hn => exact absurd ⟨_, rfl⟩ ht
  | _ =>
      rintro d ⟨⟩
      decide

theorem Spaced.endsNumber {ts : List Token} {cs : List Char} (h : Spaced ts cs)
    (hts : ∀ t ∈ ts.head?, ¬t.IsNumber) : EndsNumber cs := by
  cases h with
  | @nil blank hblank =>
      cases cs with
      | nil => nofun
      | cons c cs => exact endsNumber_of_isSpace (hblank c List.mem_cons_self) cs
  | @cons t ts blank cs rest hblank ht =>
      cases blank with
      | nil => exact ht.endsNumber (hts t rfl) rest
      | cons c blank => exact endsNumber_of_isSpace (hblank c List.mem_cons_self) _

/-! ## Rows of tokens -/

/-- No two numbers are neighbours. -/
def Separated (ts : List Token) : Prop := ts.IsChain fun t u => t.IsNumber → ¬u.IsNumber

/-- White space is passed over. -/
theorem IsBlank.exists_tokensOnto {blank : List Char} (h : IsBlank blank) (done : List Token)
    {cs : List Char} {fuel : Nat} (hfuel : (blank ++ cs).length ≤ fuel) :
    ∃ m, cs.length ≤ m ∧ tokensOnto done fuel (blank ++ cs) = tokensOnto done m cs := by
  induction blank generalizing fuel with
  | nil => exact ⟨fuel, hfuel, rfl⟩
  | cons c blank ih =>
      rw [List.cons_append, List.length_cons] at hfuel
      obtain ⟨fuel, rfl⟩ : ∃ n, fuel = n + 1 := ⟨fuel - 1, by omega⟩
      rw [List.cons_append, tokensOnto, if_pos (h c List.mem_cons_self)]
      exact ih (fun d hd => h d (List.mem_cons_of_mem c hd)) (by omega)

/-- Tokens are read to the end of the text. -/
theorem Spaced.tokensOnto_eq {ts : List Token} {cs : List Char} (h : Spaced ts cs)
    (hsep : Separated ts) (done : List Token) {fuel : Nat} (hfuel : cs.length ≤ fuel) :
    tokensOnto done fuel cs = some (done.reverse ++ ts) := by
  induction h generalizing done fuel with
  | @nil blank hblank =>
      rw [← List.append_nil blank] at hfuel ⊢
      obtain ⟨m, -, heq⟩ := hblank.exists_tokensOnto done hfuel
      rw [heq, tokensOnto, List.append_nil]
  | @cons t ts blank cs rest hblank ht hrest ih =>
      obtain ⟨m, hm, heq⟩ := hblank.exists_tokensOnto done hfuel
      have hends : t.IsNumber → EndsNumber rest := fun hnumber =>
        hrest.endsNumber fun u hu => hsep.rel_head? hu hnumber
      have hread := ht.token?_append hends
      obtain ⟨c, cs, rfl, hc⟩ := ht.exists_cons
      rw [List.cons_append] at hread heq hm ⊢
      rw [List.length_cons, List.length_append] at hm
      obtain ⟨m, rfl⟩ : ∃ n, m = n + 1 := ⟨m - 1, by omega⟩
      rw [heq, tokensOnto, if_neg (by simp [hc]), hread]
      simp only
      rw [ih hsep.tail (t :: done) (by omega), List.reverse_cons, List.append_assoc,
        List.singleton_append]

theorem Spaced.tokens?_eq {ts : List Token} {text : String} (h : Spaced ts text.toList)
    (hsep : Separated ts) : tokens? text = some ts := by
  rw [tokens?, h.tokensOnto_eq hsep [] (Nat.le_of_eq String.length_toList), List.reverse_nil,
    List.nil_append]

end Json

end Leftmost
