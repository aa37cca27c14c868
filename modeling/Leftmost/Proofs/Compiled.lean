import Leftmost.Compiled
import Leftmost.Proofs.Text.Slice
import Mathlib.Order.Bounds.Basic

/-!
# Leftmost.Proofs.Compiled

What a search asks its engine.  A range may be any pair of places, turned around or beyond the end of
the text; it is moved into the text first, its end before its start, and whatever it was, the engine
is asked at most once, with a text that ends where the range ends and a start within that text:

* `Utf8.alignWithin_eq_some_iff` — steps of a byte lead to the first boundary, if they are enough;
* `Utf8.nextBoundary_le_add_three` — in UTF-8, three of them are;
* `Compiled.search_eq_searchBy` — a search is one that asks, with the pattern's own engine;
* `Compiled.search_cases` — it asks once from a place in the text, or it refuses the text;
* `Compiled.exists_spans_of_search` — a region carries the groups that the engine found;
* `Compiled.IsMade.groupCount_pos` — a pattern that a compiler gave has group 0;
* `Compiled.asks_search` — all of this, for every range.
-/

namespace Leftmost

/-! ## Boundaries -/

namespace Utf8

/-- Steps forward to the next boundary, at most so many times.  The end of the text does not stop
it. -/
def alignWithin (b : ByteArray) : Nat → Nat → Option Nat
  | 0, p => if isBoundary b p then some p else none
  | n + 1, p => if isBoundary b p then some p else alignWithin b n (p + 1)

/-- The boundaries from a position on. -/
def boundariesFrom (b : ByteArray) (p : Nat) : Set Nat := {q | p ≤ q ∧ isBoundary b q = true}

theorem isLeast_of_isBoundary {b : ByteArray} {p : Nat} (h : isBoundary b p = true) :
    IsLeast (boundariesFrom b p) p :=
  ⟨⟨Nat.le_refl p, h⟩, fun _ hq => hq.1⟩

/-- Where no boundary is, the next one is that from the next position on. -/
theorem boundariesFrom_succ {b : ByteArray} {p : Nat} (h : ¬isBoundary b p = true) :
    boundariesFrom b p = boundariesFrom b (p + 1) := by
  ext q
  constructor
  · rintro ⟨hle, hq⟩
    have hne : q ≠ p := fun heq => h (heq ▸ hq)
    exact ⟨by omega, hq⟩
  · rintro ⟨hle, hq⟩
    exact ⟨by omega, hq⟩

theorem eq_iff_isLeast_of_isBoundary {b : ByteArray} {p : Nat} (h : isBoundary b p = true)
    (n q : Nat) : p = q ↔ IsLeast (boundariesFrom b p) q ∧ q ≤ p + n := by
  constructor
  · rintro rfl
    exact ⟨isLeast_of_isBoundary h, Nat.le_add_right p n⟩
  · rintro ⟨hq, -⟩
    exact (isLeast_of_isBoundary h : IsLeast _ p).unique hq

/-- Steps lead to the first boundary, if they are enough. -/
theorem alignWithin_eq_some_iff {b : ByteArray} {n p q : Nat} :
    alignWithin b n p = some q ↔ IsLeast (boundariesFrom b p) q ∧ q ≤ p + n := by
  induction n generalizing p with
  | zero =>
      by_cases hp : isBoundary b p = true
      · rw [alignWithin, if_pos hp, Option.some.injEq, eq_iff_isLeast_of_isBoundary hp 0]
      · rw [alignWithin, if_neg hp, boundariesFrom_succ hp]
        refine iff_of_false (by simp) fun ⟨hq, hle⟩ => ?_
        have := hq.1.1
        omega
  | succ n ih =>
      by_cases hp : isBoundary b p = true
      · rw [alignWithin, if_pos hp, Option.some.injEq, eq_iff_isLeast_of_isBoundary hp (n + 1)]
      · rw [alignWithin, if_neg hp, ih, boundariesFrom_succ hp, Nat.add_assoc, Nat.add_comm 1 n]

theorem nextBoundary_le_of_isBoundary {b : ByteArray} {p q : Nat} (hle : p ≤ q)
    (hq : isBoundary b q = true) : nextBoundary b p ≤ q := by
  fun_induction nextBoundary b p with
  | case1 p hp ih =>
      have hne : p ≠ q := by
        rintro rfl
        simp [hq] at hp
      exact ih (by omega)
  | case2 => exact hle

/-- The next boundary is the first one. -/
theorem isLeast_nextBoundary {b : ByteArray} {p : Nat} (h : p ≤ b.size) :
    IsLeast (boundariesFrom b p) (nextBoundary b p) :=
  ⟨⟨le_nextBoundary b p, isBoundary_nextBoundary h⟩,
    fun _ hq => nextBoundary_le_of_isBoundary hq.1 hq.2⟩

theorem check_of_isValidUTF8 {b : ByteArray} (h : b.IsValidUTF8) : check b = .ok () := by
  rw [check, if_pos (ByteArray.validateUTF8_eq_true_iff.mpr h)]

theorem check_of_not_isValidUTF8 {b : ByteArray} (h : ¬b.IsValidUTF8) :
    ∃ flaw, check b = .error flaw := by
  rw [check, if_neg (fun hv => h (ByteArray.validateUTF8_eq_true_iff.mp hv))]
  exact ⟨_, rfl⟩

/-- In UTF-8, a boundary is three bytes away at most. -/
theorem nextBoundary_le_add_three {b : ByteArray} (hb : b.IsValidUTF8) {p : Nat}
    (hp : p ≤ b.size) : nextBoundary b p ≤ p + 3 := by
  obtain ⟨cs, rfl⟩ := hb
  rw [← Row.encode_ofChars] at hp ⊢
  generalize Row.ofChars cs = row at hp ⊢
  have hleast := isLeast_nextBoundary hp
  rw [Row.size_encode] at hp
  rcases Nat.lt_or_eq_of_le hp with hlt | heq
  · -- The character that holds `p` ends three bytes behind it at most.
    obtain ⟨j, ⟨hlo, hhi⟩, -⟩ := Row.unitOf_eq hlt
    have hj : j < row.length := by
      by_contra hge
      rw [List.take_of_length_le (by omega)] at hlo
      omega
    have hnext := Row.byteLength_take_succ hj
    have hfour := row[j].1.utf8Size_le_four
    by_cases hbegin : p = Row.byteLength (row.take j)
    · have := hleast.2 ⟨Nat.le_refl p, Row.isBoundary_encode_iff.mpr ⟨j, hbegin⟩⟩
      omega
    · have := hleast.2 ⟨Nat.le_of_lt hhi, Row.isBoundary_encode_iff.mpr ⟨j + 1, rfl⟩⟩
      omega
  · have := hleast.2 ⟨Nat.le_refl p, by simp [isBoundary, heq]⟩
    omega

end Utf8

/-! ## Asking -/

namespace Compiled

/-- What is asked for the matches in a text from a place on; it may do something besides. -/
abbrev Asked (m : Type → Type) :=
  ByteArray → Nat → m (Except Plan.Overrun (Option (List Span)))

/-- What becomes of an answer. -/
def answer : Except Plan.Overrun (Option (List Span)) → Except SearchFailure (Option Region)
  | .ok spans => .ok (spans.map regionOf)
  | .error why => .error (overrun why)

/-- A search of an engine that is asked for the matches. -/
def searchBy {m : Type → Type} [Monad m] (engine : Engine) (ask : Asked m) (h : ByteArray)
    (start stop : Nat) : m (Except SearchFailure (Option Region)) :=
  let h := cut h stop
  let start := min start h.size
  match engine with
  | .standard => answer <$> ask h start
  | .backtracking =>
    match Utf8.check h with
    | .ok () => answer <$> ask h (Utf8.nextBoundary h start)
    | .error flaw => pure (.error ⟨.invalidCodePoint, flaw.message⟩)

/-- The matches that a pattern's own finder finds. -/
def own (p : Compiled) : Asked Id := fun h start => p.finder.find p.backtrackLimit.toNat h start

/-- A search is one that asks the pattern's own finder. -/
theorem search_eq_searchBy (p : Compiled) (h : ByteArray) (start stop : Nat) :
    p.search h start stop = (searchBy p.engine p.own h start stop).run := by
  unfold search searchBy
  dsimp only
  cases p.engine with
  | standard => rfl
  | backtracking =>
      cases Utf8.check (cut h stop) with
      | ok _ => rfl
      | error flaw => rfl

/-! ## Ranges -/

/-- The end of a range, moved into the text. -/
def rangeEnd (h : ByteArray) (stop : Nat) : Nat := min stop h.size

/-- The start of a range, moved into the text and before its end. -/
def rangeStart (h : ByteArray) (start stop : Nat) : Nat := min start (rangeEnd h stop)

/-- The text that a range ends. -/
def textTo (h : ByteArray) (stop : Nat) : ByteArray := h.extract 0 (rangeEnd h stop)

theorem rangeEnd_le (h : ByteArray) (stop : Nat) : rangeEnd h stop ≤ h.size := Nat.min_le_right ..

@[simp] theorem size_textTo (h : ByteArray) (stop : Nat) :
    (textTo h stop).size = rangeEnd h stop := by
  rw [textTo, ByteArray.size_extract, Nat.sub_zero, Nat.min_eq_left (rangeEnd_le h stop)]

theorem rangeStart_le_size (h : ByteArray) (start stop : Nat) :
    rangeStart h start stop ≤ (textTo h stop).size := by
  rw [size_textTo]
  exact Nat.min_le_right ..

theorem cut_eq_textTo (h : ByteArray) (stop : Nat) : cut h stop = textTo h stop := by
  unfold cut
  split
  · next hlt => rw [textTo, rangeEnd, Nat.min_eq_left (Nat.le_of_lt hlt)]
  · next hge =>
      rw [textTo, rangeEnd, Nat.min_eq_right (Nat.le_of_not_lt hge), ByteArray.extract_zero_size]

section

variable {m : Type → Type} [Monad m] (ask : Asked m) (h : ByteArray) (start stop : Nat)

theorem searchBy_standard : searchBy .standard ask h start stop =
    answer <$> ask (textTo h stop) (rangeStart h start stop) := by
  unfold searchBy
  dsimp only
  rw [cut_eq_textTo, size_textTo, rangeStart]

theorem searchBy_of_isValidUTF8 (hvalid : (textTo h stop).IsValidUTF8) :
    searchBy .backtracking ask h start stop =
      answer <$> ask (textTo h stop)
        (Utf8.nextBoundary (textTo h stop) (rangeStart h start stop)) := by
  unfold searchBy
  dsimp only
  rw [cut_eq_textTo, size_textTo, Utf8.check_of_isValidUTF8 hvalid, rangeStart]

theorem searchBy_of_check_eq_error {flaw : Utf8.Flaw}
    (hcheck : Utf8.check (textTo h stop) = .error flaw) :
    searchBy .backtracking ask h start stop =
      pure (.error ⟨.invalidCodePoint, flaw.message⟩) := by
  unfold searchBy
  dsimp only
  rw [cut_eq_textTo, hcheck]

end

/-- A search asks once from a place in the text, or it refuses the text. -/
theorem search_cases (p : Compiled) (h : ByteArray) (start stop : Nat) :
    (∃ place ≤ (textTo h stop).size,
      p.search h start stop = answer (p.own (textTo h stop) place)) ∨
    ∃ flaw : Utf8.Flaw, p.search h start stop = .error ⟨.invalidCodePoint, flaw.message⟩ := by
  have hin := rangeStart_le_size h start stop
  rw [search_eq_searchBy]
  cases p.engine with
  | standard =>
      rw [searchBy_standard]
      exact .inl ⟨_, hin, rfl⟩
  | backtracking =>
      by_cases hvalid : (textTo h stop).IsValidUTF8
      · rw [searchBy_of_isValidUTF8 p.own h start stop hvalid]
        exact .inl ⟨_, Utf8.nextBoundary_le hin, rfl⟩
      · obtain ⟨flaw, hflaw⟩ := Utf8.check_of_not_isValidUTF8 hvalid
        rw [searchBy_of_check_eq_error p.own h start stop hflaw]
        exact .inr ⟨flaw, rfl⟩

/-! ## Searches of a whole text -/

theorem textTo_size (h : ByteArray) : textTo h h.size = h := by
  rw [← cut_eq_textTo, cut_size]

theorem rangeStart_size (h : ByteArray) (start : Nat) :
    rangeStart h start h.size = min start h.size := by
  rw [rangeStart, rangeEnd, Nat.min_self]

section

variable {p : Compiled} {h : ByteArray}

theorem search_of_standard (he : p.engine = .standard) (start : Nat) :
    p.search h start h.size = answer (p.own h (min start h.size)) := by
  rw [search_eq_searchBy, he, searchBy_standard, textTo_size, rangeStart_size]
  rfl

theorem search_of_isValidUTF8 (he : p.engine = .backtracking) (hvalid : h.IsValidUTF8)
    (start : Nat) : p.search h start h.size =
      answer (p.own h (Utf8.nextBoundary h (min start h.size))) := by
  have hasked := searchBy_of_isValidUTF8 p.own h start h.size (by rwa [textTo_size])
  rw [search_eq_searchBy, he, hasked, textTo_size, rangeStart_size]
  rfl

theorem search_of_check_eq_error (he : p.engine = .backtracking) {flaw : Utf8.Flaw}
    (hcheck : Utf8.check h = .error flaw) (start : Nat) :
    p.search h start h.size = .error ⟨.invalidCodePoint, flaw.message⟩ := by
  have hwhole : Utf8.check (textTo h h.size) = .error flaw := by rw [textTo_size, hcheck]
  rw [search_eq_searchBy, he, searchBy_of_check_eq_error p.own h start h.size hwhole]
  rfl

end

/-! ## The groups of a region -/

/-- Where a group begins; a group that took no part has the greatest offset. -/
def beginOf (s : Span) : Offset := (s.map fun b => b.1.toUInt64).getD unsetOffset

/-- Where a group ends; a group that took no part has the greatest offset. -/
def endOf (s : Span) : Offset := (s.map fun b => b.2.toUInt64).getD unsetOffset

/-- A region has the groups of spans, one for one and in order. -/
structure Carries (r : Region) (ss : List Span) : Prop where
  begins : (List.range r.groupCount).map r.first = ss.map beginOf
  ends : (List.range r.groupCount).map r.last = ss.map endOf

theorem bound_regionOf {ss : List Span} {g : Nat} (hg : g < ss.length) :
    (regionOf ss).bound g = (beginOf ss[g], endOf ss[g]) := by
  have hget : (regionOf ss).bound g =
      Region.boundsOf (ss[g].map fun b => (b.1.toUInt64, b.2.toUInt64)) := by
    simp [Region.bound, regionOf, Region.ofGroups, hg]
  rw [hget]
  cases ss[g] with
  | none => rfl
  | some b => rfl

theorem carries_regionOf (ss : List Span) : Carries (regionOf ss) ss := by
  have hcount : (regionOf ss).groupCount = ss.length := by
    rw [regionOf, Region.groupCount_ofGroups, List.length_map]
  constructor
  · refine List.ext_getElem (by simp [hcount]) fun g _ hg => ?_
    rw [List.length_map] at hg
    simp [Region.first, bound_regionOf hg]
  · refine List.ext_getElem (by simp [hcount]) fun g _ hg => ?_
    rw [List.length_map] at hg
    simp [Region.last, bound_regionOf hg]

/-- A region comes from the spans that the finder finds. -/
theorem exists_spans_of_search {p : Compiled} {h : ByteArray} {start stop : Nat} {r : Region}
    (hr : p.search h start stop = .ok (some r)) : ∃ place ≤ (textTo h stop).size, ∃ ss,
      p.own (textTo h stop) place = .ok (some ss) ∧ Carries r ss := by
  rcases search_cases p h start stop with ⟨place, hplace, hs⟩ | ⟨flaw, hs⟩
  · rw [hs] at hr
    refine ⟨place, hplace, ?_⟩
    cases hown : p.own (textTo h stop) place with
    | error why => simp [hown, answer] at hr
    | ok spans =>
        rw [hown, answer, Except.ok.injEq, Option.map_eq_some_iff] at hr
        obtain ⟨ss, rfl, rfl⟩ := hr
        exact ⟨ss, rfl, carries_regionOf ss⟩
  · cases hs.symm.trans hr

/-- A search reports the groups of the pattern. -/
theorem groupCount_search {p : Compiled} {h : ByteArray} {start stop : Nat} {r : Region}
    (hs : p.search h start stop = .ok (some r)) : r.groupCount = p.groupCount := by
  obtain ⟨place, -, ss, hss, hcarries⟩ := exists_spans_of_search hs
  have hlength := congrArg List.length hcarries.begins
  rw [List.length_map, List.length_range, List.length_map] at hlength
  rw [hlength, p.finder.length_find hss, groupCount]

/-! ## Patterns that compilers give -/

/-- A pattern that some compiler gave. -/
def IsMade (p : Compiled) : Prop := ∃ (c : Compiler) (source : String), c.compile source = .ok p

/-- A compiled pattern has group 0. -/
theorem IsMade.groupCount_pos {p : Compiled} (h : p.IsMade) : 0 < p.groupCount := by
  obtain ⟨c, source, hc⟩ := h
  obtain ⟨f, hf, rfl⟩ := Compiler.compile_eq_ok_iff.mp hc
  exact c.engines.groupCount_pos hf

/-! ## The codes of a failure -/

theorem code_overrun (why : Plan.Overrun) :
    (overrun why).code = .stackLimit ∨ (overrun why).code = .memory := by
  cases why with
  | limitExceeded => exact .inl rfl
  | stackFull => exact .inr rfl

theorem code_of_answer {a : Except Plan.Overrun (Option (List Span))} {f : SearchFailure}
    (h : answer a = .error f) : f.code = .stackLimit ∨ f.code = .memory := by
  cases a with
  | ok spans => cases h
  | error why =>
      rw [answer, Except.error.injEq] at h
      exact h ▸ code_overrun why

/-- The codes of a pattern's search that fails. -/
theorem code_of_search {p : Compiled} {text : ByteArray} {start stop : Nat}
    {f : SearchFailure} (h : p.search text start stop = .error f) :
    f.code = .stackLimit ∨ f.code = .memory ∨ f.code = .invalidCodePoint := by
  rcases search_cases p text start stop with ⟨place, -, hs⟩ | ⟨flaw, hs⟩
  · exact (code_of_answer (hs.symm.trans h)).imp_right .inl
  · rw [hs, Except.error.injEq] at h
    exact .inr (.inr (h ▸ rfl))

/-- In UTF-8 a search fails only where it overruns a limit. -/
theorem code_of_search_of_isValidUTF8 {p : Compiled} {h : ByteArray} (hvalid : h.IsValidUTF8)
    {start : Nat} {f : SearchFailure} (hf : p.search h start h.size = .error f) :
    f.code = .stackLimit ∨ f.code = .memory := by
  cases he : p.engine with
  | standard => exact code_of_answer ((search_of_standard he start).symm.trans hf)
  | backtracking => exact code_of_answer ((search_of_isValidUTF8 he hvalid start).symm.trans hf)

/-! ## What is asked -/

/-- What a search asks, whatever the range, and what becomes of the answer. -/
structure Asks (p : Compiled) (h : ByteArray) (start stop : Nat) : Prop where
  own : p.search h start stop = (searchBy p.engine p.own h start stop).run
  in_text : rangeStart h start stop ≤ (textTo h stop).size ∧ rangeEnd h stop ≤ h.size
  standard : p.engine = .standard → ∀ {m : Type → Type} [Monad m] (ask : Asked m),
    searchBy p.engine ask h start stop = answer <$> ask (textTo h stop) (rangeStart h start stop)
  /-- The start is the first boundary, at most three steps behind. -/
  valid : p.engine = .backtracking → (textTo h stop).IsValidUTF8 → ∃ b,
    IsLeast (Utf8.boundariesFrom (textTo h stop) (rangeStart h start stop)) b ∧
    Utf8.alignWithin (textTo h stop) 3 (rangeStart h start stop) = some b ∧
    b ≤ (textTo h stop).size ∧
    ∀ {m : Type → Type} [Monad m] (ask : Asked m),
      searchBy p.engine ask h start stop = answer <$> ask (textTo h stop) b
  /-- A text that is not UTF-8 is not asked about. -/
  invalid : p.engine = .backtracking → ¬(textTo h stop).IsValidUTF8 → ∃ flaw : Utf8.Flaw,
    ∀ {m : Type → Type} [Monad m] (ask : Asked m),
      searchBy p.engine ask h start stop = pure (.error ⟨.invalidCodePoint, flaw.message⟩)
  /-- A start inside a character is as good as one at the next. -/
  moves : p.engine = .backtracking → ∀ b,
    IsLeast (Utf8.boundariesFrom (textTo h stop) (rangeStart h start stop)) b →
      p.search h start stop = p.search h b stop
  groups : ∀ r, p.search h start stop = .ok (some r) → ∃ place ≤ (textTo h stop).size, ∃ ss,
    p.own (textTo h stop) place = .ok (some ss) ∧ Carries r ss

/-- On the backtracking engine a search depends on the boundary that its start is moved to. -/
theorem searchBy_backtracking_congr {m : Type → Type} [Monad m] (ask : Asked m) (h : ByteArray)
    {start start' stop : Nat}
    (heq : Utf8.nextBoundary (textTo h stop) (rangeStart h start stop) =
      Utf8.nextBoundary (textTo h stop) (rangeStart h start' stop)) :
    searchBy .backtracking ask h start stop = searchBy .backtracking ask h start' stop := by
  by_cases hvalid : (textTo h stop).IsValidUTF8
  · rw [searchBy_of_isValidUTF8 ask h start stop hvalid, heq,
      searchBy_of_isValidUTF8 ask h start' stop hvalid]
  · obtain ⟨flaw, hflaw⟩ := Utf8.check_of_not_isValidUTF8 hvalid
    rw [searchBy_of_check_eq_error ask h start stop hflaw,
      searchBy_of_check_eq_error ask h start' stop hflaw]

/-- A start is as good as the boundary that it is moved to. -/
theorem search_eq_of_isLeast {p : Compiled} (he : p.engine = .backtracking) {h : ByteArray}
    {start stop b : Nat}
    (hb : IsLeast (Utf8.boundariesFrom (textTo h stop) (rangeStart h start stop)) b) :
    p.search h start stop = p.search h b stop := by
  have hin := rangeStart_le_size h start stop
  obtain rfl := (Utf8.isLeast_nextBoundary hin).unique hb
  -- The boundary lies in the range and is its own next one.
  have hle := Utf8.nextBoundary_le hin
  have hstay : rangeStart h (Utf8.nextBoundary (textTo h stop) (rangeStart h start stop)) stop =
      Utf8.nextBoundary (textTo h stop) (rangeStart h start stop) := by
    rw [size_textTo] at hle
    exact Nat.min_eq_left hle
  rw [search_eq_searchBy, search_eq_searchBy, he]
  refine congrArg Id.run (searchBy_backtracking_congr p.own h ?_)
  rw [hstay]
  exact (Utf8.isLeast_of_isBoundary hb.1.2).unique (Utf8.isLeast_nextBoundary hle)

theorem asks_search (p : Compiled) (h : ByteArray) (start stop : Nat) :
    Asks p h start stop where
  own := search_eq_searchBy p h start stop
  in_text := ⟨rangeStart_le_size h start stop, rangeEnd_le h stop⟩
  standard he m _ ask := by rw [he, searchBy_standard]
  valid he hvalid := by
    have hin := rangeStart_le_size h start stop
    have hleast := Utf8.isLeast_nextBoundary hin
    have hthree := Utf8.nextBoundary_le_add_three hvalid hin
    refine ⟨_, hleast, Utf8.alignWithin_eq_some_iff.mpr ⟨hleast, hthree⟩,
      Utf8.nextBoundary_le hin, fun ask => ?_⟩
    rw [he, searchBy_of_isValidUTF8 ask h start stop hvalid]
  invalid he hvalid := by
    obtain ⟨flaw, hflaw⟩ := Utf8.check_of_not_isValidUTF8 hvalid
    refine ⟨flaw, fun ask => ?_⟩
    rw [he, searchBy_of_check_eq_error ask h start stop hflaw]
  moves he b hb := search_eq_of_isLeast he hb
  groups r hr := exists_spans_of_search hr

end Compiled

end Leftmost
