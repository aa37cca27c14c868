import Leftmost.Settings

/-!
# Leftmost.Proofs.Settings.Checked

What settings are checked for: neither limit may be 0.

* `validate_spec` — they are in order unless a limit is 0;
* `validate_of_read` — settings that are read from a text are in order.
-/

namespace Leftmost

namespace Settings

/-- One of the limits is 0. -/
def HasZeroLimit (s : Settings) : Prop := s.backtrackLimit = 0 ∨ s.sizeLimit = 0

/-- Settings are in order unless a limit is 0. -/
theorem validate_spec (s : Settings) :
    s.HasZeroLimit ∧ (∃ message, s.validate = .error message) ∨
      ¬s.HasZeroLimit ∧ s.validate = .ok () := by
  unfold validate
  by_cases hback : s.backtrackLimit = 0
  · exact .inl ⟨.inl hback, _, if_pos hback⟩
  · rw [if_neg hback]
    by_cases hsize : s.sizeLimit = 0
    · exact .inl ⟨.inr hsize, _, if_pos hsize⟩
    · exact .inr ⟨not_or.mpr ⟨hback, hsize⟩, if_neg hsize⟩

/-- Settings that are read are in order. -/
theorem validate_of_read {text : String} {s : Settings} (h : read text = .ok s) :
    s.validate = .ok () := by
  unfold read at h
  cases hjson : (Json.ofText? text).bind ofJson? with
  | none =>
      simp only [hjson] at h
      cases h
  | some t =>
      simp only [hjson] at h
      cases hvalid : t.validate with
      | error message =>
          simp only [hvalid] at h
          cases h
      | ok u =>
          simp only [hvalid, Except.ok.injEq] at h
          exact h ▸ hvalid

theorem validate_default : ({} : Settings).validate = .ok () := rfl

end Settings

end Leftmost
