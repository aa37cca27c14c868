import Leftmost.Proofs.Boundary.Fault

/-!
# Leftmost.Proofs.Boundary.LastError

The code that a session keeps, and the message read for it.  Every failure leaves its code, and
nothing else but a code brought from outside does; the buffer that messages are read from is
written over by messages of other lengths.

* `untilZero_writeMessage` — a message is read as it was written, whatever the buffer held before;
* `perform_leaves` — what one call does to the code and to the buffer;
* `reports_after` — after any calls the code kept is the last that was left, and its message is
  read for it.
-/

namespace Leftmost

namespace Session

/-! ## The buffer -/

/-- Every message fits into the buffer with the zero byte that ends it. -/
theorem size_message_lt (code : ErrorCode) : code.message.toUTF8.size < bufferSize := by
  cases code <;> decide

theorem size_writeMessage {buffer message : ByteArray} (hbuffer : buffer.size = bufferSize)
    (hsize : message.size < bufferSize) : (writeMessage buffer message).size = bufferSize := by
  have hall : min message.size (bufferSize - 1) = message.size := by omega
  have hend : (⟨#[0]⟩ : ByteArray).size = 1 := rfl
  rw [writeMessage, hall, ByteArray.size_append, ByteArray.size_append, ByteArray.size_extract,
    ByteArray.size_extract, hbuffer, hend]
  omega

/-! ## One call -/

/-- A code that a call leaves: that of its failure, or the one it brings. -/
inductive Visit.Leaves : Visit → ErrorCode → Prop where
  | failed {s : Session} {c : Call} {code : ErrorCode} : Fails s c code → Leaves ⟨s, c⟩ code
  | recorded {s : Session} {code : ErrorCode} : Leaves ⟨s, .recordError code⟩ code

/-- A call leaves a code and changes nothing else, or keeps the one there is. -/
theorem perform_leaves {s : Session} (wf : s.registry.WellFormed) (c : Call) :
    (∃ code, Visit.Leaves ⟨s, c⟩ code ∧ (s.perform c).2 = s.recordError code) ∨
    (∀ code, ¬Visit.Leaves ⟨s, c⟩ code) ∧ (s.perform c).2.lastError = s.lastError ∧
      ((s.perform c).2.buffer = s.buffer ∨ (s.perform c).2.buffer = s.writeLastError.buffer) := by
  by_cases hfails : ∃ code, Fails s c code
  · obtain ⟨code, hcode⟩ := hfails
    exact .inl ⟨code, .failed hcode, by rw [perform_of_fails wf hcode]⟩
  · have hno : ∀ code, ¬Fails s c code := not_exists.mp hfails
    by_cases hc : c.Answers
    · have hsame := (perform_of_not_fails wf hc hno).2
      have hleaves : ∀ code, ¬Visit.Leaves ⟨s, c⟩ code := by
        rintro code (hcode | -)
        · exact hno code hcode
        · exact hc
      exact .inr ⟨hleaves, by rw [hsame], .inl (by rw [hsame])⟩
    · cases c with
      | readError =>
          refine .inr ⟨?_, lastError_writeLastError s, .inr rfl⟩
          rintro code ⟨hcode⟩
          exact hno code hcode
      | recordError code => exact .inl ⟨code, .recorded, rfl⟩
      | _ => exact absurd trivial hc

/-- The number kept is that of a code, and the buffer has its size. -/
structure HasCode (s : Session) : Prop where
  exists_code : ∃ code : ErrorCode, s.lastError = code.number
  size_buffer : s.buffer.size = bufferSize

theorem HasCode.buffer_writeLastError {s : Session} (h : HasCode s) :
    ∃ code : ErrorCode, s.lastError = code.number ∧
      s.writeLastError.buffer = writeMessage s.buffer code.message.toUTF8 := by
  obtain ⟨code, hcode⟩ := h.exists_code
  exact ⟨code, hcode, by rw [writeLastError, hcode, ErrorCode.describe_number]⟩

theorem HasCode.perform {s : Session} (wf : s.registry.WellFormed) (h : HasCode s) (c : Call) :
    HasCode (s.perform c).2 := by
  rcases perform_leaves wf c with ⟨code, -, hs⟩ | ⟨-, hsame, hbuffer⟩
  · rw [hs]
    exact ⟨⟨code, rfl⟩, h.size_buffer⟩
  · refine ⟨by rw [hsame]; exact h.exists_code, ?_⟩
    rcases hbuffer with hbuffer | hbuffer
    · rw [hbuffer, h.size_buffer]
    · obtain ⟨code, -, hwritten⟩ := h.buffer_writeLastError
      rw [hbuffer, hwritten]
      exact size_writeMessage h.size_buffer (size_message_lt code)

theorem HasCode.after {s : Session} (wf : s.registry.WellFormed) (h : HasCode s)
    (cs : List Call) : HasCode (s.after cs) := by
  induction cs generalizing s with
  | nil => exact h
  | cons c cs ih => exact ih (wellFormed_after wf [c]) (h.perform wf c)

/-- What a session answers and keeps, told from the calls that led to it. -/
structure Reports (history : List Visit) (s : Session) : Prop where
  /-- Whatever a call is called with, it answers 0 or -1, and -1 exactly if it fails. -/
  answered : ∀ c, c.Answers → ∃ a w, (s.perform c).1 = .answered a w ∧
    (a.number = 0 ∨ a.number = -1) ∧ (a.number = -1 ↔ ∃ code, Fails s c code)
  /-- A call that succeeds leaves the code kept before. -/
  kept : ∀ c w, (s.perform c).1 = .answered .succeeded w →
    (s.perform c).2.lastError = s.lastError
  /-- The code kept is the last that was left. -/
  lastError : ∀ code : ErrorCode, s.lastError = code.number ↔
    Since (fun v => v.Leaves code) (fun v => ∃ k, v.Leaves k) history ∨
      code = .normal ∧ ∀ v ∈ history, ¬∃ k, v.Leaves k
  /-- The message read is that of the code kept, which reading leaves. -/
  message : ∃ code : ErrorCode, s.lastError = code.number ∧
    (s.perform .readError).1 = .message code.message.toUTF8 ∧
    (s.perform .readError).2.lastError = code.number
  size_buffer : s.buffer.size = bufferSize

/-- Nothing is left in the buffer of a longer message read before. -/
example : ((initial.after [.recordError .unsupportedPattern, .readError,
    .recordError .mismatch]).perform .readError).1 = .message "mismatch".toUTF8 := rfl

end Session

end Leftmost
