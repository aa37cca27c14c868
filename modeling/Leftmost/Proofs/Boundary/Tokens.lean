import Leftmost.Proofs.Boundary.Fault
import Leftmost.Proofs.Registry.Issued
import Mathlib.Algebra.Group.Nat.Defs
import Mathlib.Data.List.Nodup

/-!
# Leftmost.Proofs.Boundary.Tokens

The words that stand for patterns outside.  Whether a word stands for one is told from the calls
alone: some call has written it for its pattern, and no list given up since has it.

* `InUse` — this, said of a history;
* `words_visits` — the words written are the packed tokens of the store;
* `isLive_perform_iff`, `inUse_iff_isLive` — the words in use are those of the tokens that stand for
  patterns;
* `refuses_iff` — a search accepts the words of such tokens and no others;
* `guards_after` — all this after any calls that write no more than `2 ^ 32` words.
-/

namespace Leftmost

namespace Session

/-! ## Words in use -/

/-- The word that a call writes for its pattern, if it succeeds to compile one. -/
def Visit.word? (v : Visit) : Option UInt64 :=
  match v.reply with
  | .answered .succeeded (some (.token raw)) => some raw
  | _ => none

/-- The words that calls have written for their patterns. -/
def words (history : List Visit) : List UInt64 := history.filterMap Visit.word?

/-- A call succeeds to give up a list that has the word. -/
def Visit.GivesUp (v : Visit) (raw : UInt64) : Prop :=
  v.reply = .answered .succeeded none ∧ ∃ patterns count raws,
    v.call = .dispose patterns count ∧ listAt? patterns count = some raws ∧ raw ∈ raws

/-- A word was written for a pattern and has not been given up since. -/
def InUse (history : List Visit) (raw : UInt64) : Prop :=
  Since (fun v => v.word? = some raw) (fun v => v.GivesUp raw) history

/-- A word is that of a token that stands for a pattern. -/
def IsLive (s : Session) (raw : UInt64) : Prop :=
  ∃ h p, Handle.ofRaw? raw = some h ∧ s.registry.get? h = some p

theorem mem_filterMap_ofRaw? {raw : UInt64} {h : Handle} (hraw : Handle.ofRaw? raw = some h)
    {raws : List UInt64} : h ∈ raws.filterMap Handle.ofRaw? ↔ raw ∈ raws := by
  rw [List.mem_filterMap]
  constructor
  · rintro ⟨other, hmem, hother⟩
    rwa [← Handle.toRaw_of_ofRaw? hraw, Handle.toRaw_of_ofRaw? hother]
  · exact fun hmem => ⟨raw, hmem, hraw⟩

theorem not_isLive_iff {s : Session} {raw : UInt64} :
    ¬IsLive s raw ↔ ∀ h, Handle.ofRaw? raw = some h → s.registry.get? h = none := by
  constructor
  · intro hdead h hraw
    cases hp : s.registry.get? h with
    | none => rfl
    | some p => exact absurd ⟨h, p, hraw, hp⟩ hdead
  · rintro hdead ⟨h, p, hraw, hp⟩
    cases (hdead h hraw).symm.trans hp

/-- The word that a call writes is the packed token that its request is answered with. -/
theorem word?_eq (s : Session) (c : Call) : Visit.word? ⟨s, c⟩ =
    (c.request?.bind fun q => (s.registry.perform q).1.bind Except.toOption).map
      Handle.toRaw := by
  cases c with
  | compile pattern hasOutput =>
      cases pattern with
      | none => cases hasOutput <;> rfl
      | some pattern =>
          cases hasOutput with
          | false => rfl
          | true =>
              rw [Visit.word?, Visit.reply, perform_compile, Call.request?, Option.bind_some,
                Registry.perform]
              cases (s.registry.compileBytes (untilZero pattern)).1.value <;> rfl
  | dispose patterns count =>
      rw [Visit.word?, Visit.reply, Call.request?]
      cases hlist : listAt? patterns count with
      | none => rw [perform_dispose_of_listAt?_eq_none s hlist]; rfl
      | some raws => rw [perform_dispose s hlist]; rfl
  | findBest q =>
      by_cases hfails : ∃ code, q.Fails s.registry code
      · obtain ⟨code, hcode⟩ := hfails
        rw [Visit.word?, Visit.reply, perform_findBest_of_fails s hcode]
        rfl
      · obtain ⟨best, hs⟩ := perform_findBest_of_not_fails s (not_exists.mp hfails)
        rw [Visit.word?, Visit.reply, hs]
        rfl
  | configure json =>
      rw [Visit.word?, Visit.reply, perform_configure, Call.request?]
      cases settingsAt? json <;> rfl
  | readError => rfl
  | recordError code => rfl

theorem words_visits_cons (s : Session) (c : Call) (cs : List Call) :
    words (s.visits (c :: cs)) =
      (Visit.word? ⟨s, c⟩).toList ++ words ((s.perform c).2.visits cs) := by
  simp only [words, visits, List.filterMap_cons]
  cases Visit.word? ⟨s, c⟩ <;> rfl

/-- The words written are the packed tokens of the store. -/
theorem words_visits (s : Session) (cs : List Call) : words (s.visits cs) =
    (Registry.issued (s.registry.run (cs.filterMap Call.request?)).1).map Handle.toRaw := by
  induction cs generalizing s with
  | nil => rfl
  | cons c cs ih =>
      rw [words_visits_cons, ih, registry_perform, word?_eq]
      cases hq : c.request? with
      | none => rw [List.filterMap_cons_none hq]; rfl
      | some q =>
          rw [List.filterMap_cons_some hq, Registry.run, Registry.issued_cons, List.map_append,
            Registry.issued_singleton, ← Option.toList_map]
          rfl

theorem isLive_iff {s : Session} {raw : UInt64} {h : Handle} (hraw : Handle.ofRaw? raw = some h) :
    IsLive s raw ↔ ∃ p, s.registry.get? h = some p := by
  constructor
  · rintro ⟨k, p, hk, hp⟩
    obtain rfl : h = k := Option.some.inj (hraw.symm.trans hk)
    exact ⟨p, hp⟩
  · rintro ⟨p, hp⟩
    exact ⟨h, p, hraw, hp⟩

theorem word?_eq_some_iff {s : Session} (wf : s.registry.WellFormed) {c : Call} {raw : UInt64} :
    Visit.word? ⟨s, c⟩ = some raw ↔ ∃ h, Handle.ofRaw? raw = some h ∧
      ∃ q, c.request? = some q ∧ (s.registry.perform q).1 = some (.ok h) := by
  rw [word?_eq, Option.map_eq_some_iff]
  constructor
  · rintro ⟨h, hissued, rfl⟩
    obtain ⟨q, hq, hreply⟩ := Option.bind_eq_some_iff.mp hissued
    obtain ⟨v, hv, hok⟩ := Option.bind_eq_some_iff.mp hreply
    obtain rfl : v = .ok h := eq_ok_of_toOption hok
    obtain ⟨p, hp⟩ := wf.get?_of_answered hv
    exact ⟨h, Handle.ofRaw?_toRaw ((wf.perform q).fits_of_get? hp), q, hq, hv⟩
  · rintro ⟨h, hraw, q, hq, hv⟩
    exact ⟨h, by rw [hq, Option.bind_some, hv]; rfl, Handle.toRaw_of_ofRaw? hraw⟩

theorem givesUp_iff {s : Session} {c : Call} {raw : UInt64} {h : Handle}
    (hraw : Handle.ofRaw? raw = some h) :
    Visit.GivesUp ⟨s, c⟩ raw ↔ ∃ hs, c.request? = some (.dispose hs) ∧ h ∈ hs := by
  simp only [Call.request?_eq_dispose_iff]
  constructor
  · rintro ⟨-, patterns, count, raws, hc, hlist, hmem⟩
    exact ⟨_, ⟨patterns, count, raws, hc, hlist, rfl⟩, (mem_filterMap_ofRaw? hraw).mpr hmem⟩
  · rintro ⟨_, ⟨patterns, count, raws, rfl, hlist, rfl⟩, hmem⟩
    refine ⟨?_, patterns, count, raws, rfl, hlist, (mem_filterMap_ofRaw? hraw).mp hmem⟩
    rw [Visit.reply, perform_dispose s hlist]

/-- The words that stand for patterns are those that the call writes, and those that stood for
patterns before and are not given up. -/
theorem isLive_perform_iff {s : Session} (wf : s.registry.WellFormed) (c : Call) (raw : UInt64) :
    IsLive (s.perform c).2 raw ↔
      Visit.word? ⟨s, c⟩ = some raw ∨ IsLive s raw ∧ ¬Visit.GivesUp ⟨s, c⟩ raw := by
  rw [word?_eq_some_iff wf]
  cases hraw : Handle.ofRaw? raw with
  | none => simp [IsLive, hraw]
  | some h =>
      rw [isLive_iff hraw, isLive_iff hraw, givesUp_iff hraw, registry_perform]
      cases c.request? with
      | none => simp
      | some q =>
          rw [wf.exists_get?_perform_iff]
          simp

theorem inUse_iff_isLive (e : Engines) (calls : List Call) (raw : UInt64) :
    InUse ((initial e).visits calls) raw ↔ IsLive ((initial e).after calls) raw := by
  have hnone : ¬IsLive (initial e) raw := by
    rintro ⟨h, p, -, hp⟩
    cases hp
  rw [iff_since_after (f := fun s => IsLive s raw) (P := fun v => v.word? = some raw)
    (Q := fun v => v.GivesUp raw) (fun s c hwf => isLive_perform_iff hwf c raw)
    (wellFormed_initial e) calls, InUse]
  simp [hnone]

/-! ## Searching with words -/

/-- A search is turned away with one of the codes for bad tokens. -/
def Refuses (s : Session) (q : Query) : Prop :=
  ∃ code : ErrorCode, (code = .invalidArgument ∨ code = .invalidHandle) ∧
    s.perform (.findBest q) = (.answered .failed none, { s with lastError := code.number })

theorem refuses_iff (s : Session) {q : Query} (hq : q.IsReadable) :
    Refuses s q ↔ ∃ raw ∈ q.raws, ¬IsLive s raw := by
  constructor
  · rintro ⟨code, hcode, hs⟩
    cases (findBest_failed_iff s q code).mp hs with
    | noOutput hout => cases hout.symm.trans hq.hasOutput
    | badPatterns _ hbad => exact absurd hbad hq.patterns
    | badText _ _ hbad => exact absurd hbad hq.text
    | nullToken _ hnull =>
        obtain ⟨raw, hmem, hraw⟩ := hnull
        exact ⟨raw, hmem, fun ⟨h, p, hh, _⟩ => (Handle.ofRaw?_eq_some_iff.mp hh).1 hraw⟩
    | staleToken _ hnull hstale =>
        obtain ⟨h, hmem, hdead⟩ := hstale
        obtain ⟨raw, hraw, rfl⟩ := List.mem_map.mp hmem
        refine ⟨raw, hraw, not_isLive_iff.mpr fun k hk => ?_⟩
        rwa [← (Handle.ofRaw?_eq_some_iff.mp hk).2]
    | search _ _ _ hfirst =>
        rcases Registry.code_of_isFirstFailure hfirst with h | h | h <;> simp [h] at hcode
  · rintro ⟨raw, hmem, hdead⟩
    by_cases hnull : ∃ other ∈ q.raws, Handle.IsNull other
    · exact ⟨_, .inl rfl, perform_findBest_of_fails s (.nullToken hq hnull)⟩
    · have hnull' : ∀ other ∈ q.raws, ¬Handle.IsNull other := by simpa using hnull
      have hraw := Handle.ofRaw?_eq_some_iff.mpr ⟨hnull' raw hmem, rfl⟩
      exact ⟨_, .inr rfl, perform_findBest_of_fails s (.staleToken hq hnull'
        ⟨_, List.mem_map_of_mem hmem, not_isLive_iff.mp hdead _ hraw⟩)⟩

/-! ## Giving words up -/

/-- Words that stand for nothing are given up in vain. -/
theorem perform_dispose_of_not_isLive (s : Session) {patterns : Option (List UInt64)} {count : Int}
    {raws : List UInt64} (h : listAt? patterns count = some raws)
    (hdead : ∀ raw ∈ raws, ¬IsLive s raw) :
    s.perform (.dispose patterns count) = (.answered .succeeded none, s) := by
  rw [perform_dispose s h, Registry.dispose_of_stale]
  intro k hk
  obtain ⟨raw, hmem, hraw⟩ := List.mem_filterMap.mp hk
  exact not_isLive_iff.mp (hdead raw hmem) k hraw

/-- So is one among others. -/
theorem perform_dispose_append_cons (s : Session) {patterns patterns' : Option (List UInt64)}
    {count count' : Int} {before after : List UInt64} {raw : UInt64}
    (h : listAt? patterns count = some (before ++ raw :: after))
    (h' : listAt? patterns' count' = some (before ++ after)) (hdead : ¬IsLive s raw) :
    s.perform (.dispose patterns count) = s.perform (.dispose patterns' count') := by
  rw [perform_dispose s h, perform_dispose s h', List.filterMap_append,
    List.filterMap_append]
  cases hraw : Handle.ofRaw? raw with
  | none => rw [List.filterMap_cons_none hraw]
  | some k =>
      rw [List.filterMap_cons_some hraw,
        Registry.dispose_append_cons (not_isLive_iff.mp hdead k hraw)]

/-! ## Any calls -/

/-- What a session makes of words, told from the calls that led to it. -/
structure Guards (history : List Visit) (s : Session) : Prop where
  words_ne_zero : ∀ raw ∈ words history, raw ≠ 0
  /-- No word is written twice. -/
  words_nodup : (words history).Nodup
  /-- A search whose other arguments are in order accepts the words that are in use and no others,
  wherever they are in its list. -/
  accepted_iff : ∀ q : Query, q.IsReadable →
    (¬Refuses s q ↔ ∀ raw ∈ q.raws, InUse history raw)
  /-- A list of words that are not in use is given up without any effect. -/
  dispose_unused : ∀ patterns count raws, listAt? patterns count = some raws →
    (∀ raw ∈ raws, ¬InUse history raw) →
    s.perform (.dispose patterns count) = (.answered .succeeded none, s)
  /-- Such a word has no effect among others either. -/
  dispose_ignores : ∀ patterns count patterns' count' before raw after,
    listAt? patterns count = some (before ++ raw :: after) →
    listAt? patterns' count' = some (before ++ after) → ¬InUse history raw →
    s.perform (.dispose patterns count) = s.perform (.dispose patterns' count')

/-- The words written by no more than `Handle.halfSize` calls are those of different tokens. -/
theorem words_spec (e : Engines) (calls : List Call)
    (hfew : (words ((initial e).visits calls)).length ≤ Handle.halfSize) :
    (words ((initial e).visits calls)).Nodup ∧
      ∀ raw ∈ words ((initial e).visits calls), raw ≠ 0 := by
  have wf := (wellFormed_initial e).run (calls.filterMap Call.request?)
  rw [words_visits, List.length_map] at hfew
  have acc := (Registry.accounts_empty {} e).run (wellFormed_initial e) _
    (by rwa [List.length_nil, Nat.zero_add])
  rw [List.nil_append] at acc
  rw [words_visits]
  refine ⟨acc.nodup.map_on fun h hh k hk heq => ?_, fun raw hraw => ?_⟩
  · exact (Handle.toRaw_inj (acc.fits wf hh) (acc.fits wf hk)).mp heq
  · obtain ⟨h, hh, rfl⟩ := List.mem_map.mp hraw
    exact Handle.toRaw_ne_zero (acc.fits wf hh)

/-- After any calls of which no more than `2 ^ 32` compile a pattern, the words written are
different and not zero; those in use and no others are accepted by searches, and no others have an
effect when they are given up. -/
theorem guards_after (e : Engines) (calls : List Call)
    (hfew : (words ((initial e).visits calls)).length ≤ 2 ^ 32) :
    Guards ((initial e).visits calls) ((initial e).after calls) := by
  obtain ⟨hnodup, hne⟩ := words_spec e calls hfew
  refine ⟨hne, hnodup, fun q hq => ?_, fun patterns count raws hlist hunused => ?_,
    fun patterns count patterns' count' before raw after hlist hlist' hunused => ?_⟩
  · rw [refuses_iff _ hq]
    simp [inUse_iff_isLive]
  · exact perform_dispose_of_not_isLive _ hlist fun raw hmem =>
      (inUse_iff_isLive e calls raw).not.mp (hunused raw hmem)
  · exact perform_dispose_append_cons _ hlist hlist' ((inUse_iff_isLive e calls raw).not.mp hunused)

/-- Two patterns are compiled, one is given up, and its slot is used again. -/
def callsWithReuse : List Call :=
  [.compile (some "a".toUTF8) true, .compile (some "(b)".toUTF8) true,
    .dispose (some [2, 2, 0]) 3, .compile (some "c".toUTF8) true]

theorem guards_after_reuse : words (initial.visits callsWithReuse) = [1, 2, 4294967298] ∧
    (words (initial.visits callsWithReuse)).length ≤ 2 ^ 32 ∧
    Guards (initial.visits callsWithReuse) (initial.after callsWithReuse) := by
  have hwords : words (initial.visits callsWithReuse) = [1, 2, 4294967298] := by decide +kernel
  have hfew : (words (initial.visits callsWithReuse)).length ≤ 2 ^ 32 := by
    rw [hwords]
    decide
  exact ⟨hwords, hfew, guards_after .builtIn callsWithReuse hfew⟩

end Session

end Leftmost
