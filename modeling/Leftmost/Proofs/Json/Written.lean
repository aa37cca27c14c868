import Leftmost.Proofs.Json.Spelling
import Leftmost.Proofs.Text.Slice
import Mathlib.Data.List.Basic

/-!
# Leftmost.Proofs.Json.Written

What is written for a string and for a natural number spells it:

* `exists_spelt_escapeChar` — a character, escaped or not, is one piece that stands for its units;
* `spelt_writeString` — a string in quotes;
* `isWhole_toDigits` — decimal digits have no zero to spare in front;
* `spelt_toDigits` — a natural number;
* `Spaced.tight` — tokens may be written without any white space.
-/

namespace Leftmost

namespace Json

/-! ## Strings -/

theorem hexDigit?_hexChar : ∀ n < 16, hexDigit? (hexChar n) = some n := by decide

/-- A character is written as one piece, which stands for its units. -/
theorem exists_spelt_escapeChar (c : Char) :
    ∃ p : Piece, p.Spelt (escapeChar c) ∧ p.units = Unit16.ofChar c := by
  unfold escapeChar
  split
  · exact ⟨.char '"', .escape rfl, rfl⟩
  · exact ⟨.char '\\', .escape rfl, rfl⟩
  · exact ⟨.char '\x08', .escape rfl, rfl⟩
  · exact ⟨.char '\x0c', .escape rfl, rfl⟩
  · exact ⟨.char '\n', .escape rfl, rfl⟩
  · exact ⟨.char '\r', .escape rfl, rfl⟩
  · exact ⟨.char '\t', .escape rfl, rfl⟩
  · next hquote hback _ _ _ _ _ =>
    by_cases hcontrol : c.toNat < 0x20
    · rw [if_pos hcontrol]
      have hvalue : ((0 * 16 + 0) * 16 + c.toNat / 16) * 16 + c.toNat % 16 = c.toNat := by omega
      refine ⟨_, .unit (w := 0) (x := 0) rfl rfl (hexDigit?_hexChar _ (by omega))
        (hexDigit?_hexChar _ (by omega)), ?_⟩
      rw [Piece.units, Unit16.ofChar, if_pos (by omega), hvalue]
    · rw [if_neg hcontrol]
      exact ⟨.char c, .plain hquote hback (by omega), rfl⟩

/-- Characters are written as pieces that stand for their units. -/
theorem exists_piecesSpelt_escapeChar (cs : List Char) :
    ∃ ps, PiecesSpelt ps (cs.flatMap escapeChar) ∧ ps.flatMap Piece.units = Unit16.ofChars cs := by
  induction cs with
  | nil => exact ⟨[], .nil, rfl⟩
  | cons c cs ih =>
      obtain ⟨p, hp, hunits⟩ := exists_spelt_escapeChar c
      obtain ⟨ps, hps, hall⟩ := ih
      refine ⟨p :: ps, .cons hp hps, ?_⟩
      rw [List.flatMap_cons, hunits, hall]
      rfl

/-- Different texts have different units. -/
theorem toList_ofString_inj {s t : String} :
    (Unit16.ofString s).toList = (Unit16.ofString t).toList ↔ s = t := by
  refine ⟨fun h => ?_, fun h => h ▸ rfl⟩
  have htext := congrArg Unit16.toText h
  rwa [Unit16.toList_ofString, Unit16.toList_ofString, Unit16.toText_ofChars,
    Unit16.toText_ofChars, String.ofList_toList, String.ofList_toList] at htext

/-- What is written for a string spells it. -/
theorem spelt_writeString (s : String) : Token.Spelt (.string (some s)) (writeString s).toList := by
  obtain ⟨ps, hps, hunits⟩ := exists_piecesSpelt_escapeChar s.toList
  have htext : StringSpelt (some s) (s.toList.flatMap escapeChar) := by
    refine ⟨ps, hps, fun t => ?_⟩
    rw [hunits, ← Unit16.toList_ofString, toList_ofString_inj, Option.some.injEq]
  rw [writeString, String.toList_ofList]
  exact .string htext

/-! ## Numbers -/

/-- The digits of a number begin with 0 only if it is 0. -/
theorem leading_zero_toDigits (n : Nat) (h : (Nat.toDigits 10 n).head? = some '0') :
    Nat.toDigits 10 n = ['0'] := by
  induction n using Nat.strongRecOn with
  | ind n ih =>
    by_cases hn : n < 10
    · rw [Nat.toDigits_of_lt_base hn] at h ⊢
      rw [Option.some.inj h]
    · rw [Nat.toDigits_of_base_le (by decide) (by omega),
        List.head?_append_of_ne_nil _ Nat.toDigits_ne_nil] at h
      have hzero : n / 10 = 0 := by
        rw [← Nat.ofDigitChars_toDigits (b := 10) (n := n / 10) (by decide) (by decide),
          ih (n / 10) (by omega) h]
        rfl
      omega

theorem isWhole_toDigits (n : Nat) : IsWhole (Nat.toDigits 10 n) where
  ne_nil := Nat.toDigits_ne_nil
  all := by
    intro c hc
    have hdigit := Nat.isDigit_of_mem_toDigits (by decide) (by decide) hc
    simpa [Char.isDigit, isDigit, Char.le_def] using hdigit
  leading_zero := leading_zero_toDigits n

/-- The decimal digits of a number spell it. -/
theorem spelt_toDigits (n : Nat) : Token.Spelt (.number (some n)) (Nat.toDigits 10 n) := by
  have hvalue : digitsValue (Nat.toDigits 10 n) = n :=
    Nat.ofDigitChars_toDigits (by decide) (by decide)
  have h := NumberSpelt.natural (isWhole_toDigits n)
  rw [hvalue] at h
  exact .number h

/-! ## Tokens -/

theorem isBlank_nil : IsBlank [] := nofun

/-- A token may be written right in front of others. -/
theorem Spaced.tight {t : Token} {ts : List Token} {cs rest : List Char} (ht : t.Spelt cs)
    (hts : Spaced ts rest) : Spaced (t :: ts) (cs ++ rest) :=
  .cons isBlank_nil ht hts

end Json

end Leftmost
