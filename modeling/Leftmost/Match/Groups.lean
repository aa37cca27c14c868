import Leftmost.Match.Matcher

/-!
# Leftmost.Match.Groups

How many groups a match reports. Every search reports as many as its matcher says, and a matcher of
either dialect says at least one: group 0, which is put around the tree or, where a look-ahead at the
end is taken in, around what comes before it.

* `Normal.groupCount_ofSeq` — simplifying a sequence drops no groups;
* `groupCount_pos_of_ofPlain`, `groupCount_pos_of_ofExtended` — a matcher has group 0;
* `length_search` — a search reports the groups of the matcher.
-/

namespace Leftmost

namespace Normal

/-! ## Sequences in normal form -/

@[simp] theorem mostGroups_append (ts us : List Normal) :
    mostGroups (ts ++ us) = max (mostGroups ts) (mostGroups us) := by
  induction ts with
  | nil => simp [mostGroups]
  | cons t ts ih => simp [mostGroups, ih, Nat.max_assoc]

theorem mostGroups_items (t : Normal) : mostGroups t.items = t.groupCount := by
  unfold items
  split <;> simp [mostGroups, groupCount]

theorem mostGroups_flatMap_items (ts : List Normal) :
    mostGroups (ts.flatMap items) = mostGroups ts := by
  induction ts with
  | nil => rfl
  | cons t ts ih => simp [mostGroups, mostGroups_items, ih]

/-- Texts hold no groups, so joining them drops none. -/
theorem mostGroups_joinTexts (ts : List Normal) : mostGroups (joinTexts ts) = mostGroups ts := by
  fun_induction joinTexts ts with
  | case1 => rfl
  | case2 ts a b rest h ih =>
      rw [h] at ih
      simpa [mostGroups, groupCount] using ih
  | case3 t ts _ ih => simp [mostGroups, ih]

/-- Simplifying a sequence drops no groups. -/
theorem groupCount_ofSeq (ts : List Normal) : (ofSeq ts).groupCount = mostGroups ts := by
  have hall : mostGroups (joinTexts (ts.flatMap items)) = mostGroups ts := by
    rw [mostGroups_joinTexts, mostGroups_flatMap_items]
  unfold ofSeq
  split
  · next h => rw [← hall, h]; rfl
  · next t h => rw [← hall, h]; simp [mostGroups]
  · exact hall

end Normal

/-! ## Matchers -/

namespace Matcher

/-- A tree that marks group 0, at its front or as a whole. -/
inductive Marks : Tree → Prop where
  | whole (t : Tree) : Marks (.group 0 t)
  | front (t : Tree) (ts : List Tree) : Marks (.seq (.group 0 t :: ts))

theorem Marks.groupCount_pos {t : Tree} (h : Marks t) : 0 < t.normal.groupCount := by
  cases h with
  | whole t =>
      simp only [Tree.normal, Normal.groupCount]
      omega
  | front t ts =>
      simp only [Tree.normal, Tree.normals, Normal.groupCount_ofSeq, Normal.mostGroups,
        Normal.groupCount]
      omega

/-- What takes in a look-ahead marks group 0 itself. -/
theorem marks_takeInLookAhead {t u : Tree} (h : takeInLookAhead t = (u, true)) : Marks u := by
  unfold takeInLookAhead at h
  split at h
  · split at h
    · cases h
      exact .front _ _
    · cases h
  · cases h
    exact .front _ _
  · cases h

theorem groupCount_pos_of_ofPlain {room : Nat} {text : String} {m : Matcher}
    (h : ofPlain room text = .ok m) : 0 < m.groupCount := by
  unfold ofPlain at h
  split at h
  · cases h
  · split at h
    · cases h
      exact (Marks.whole _).groupCount_pos
    · cases h

theorem groupCount_pos_of_ofExtended {room : Nat} {text : String} {m : Matcher}
    (h : ofExtended room text = .ok m) : 0 < m.groupCount := by
  unfold ofExtended at h
  cases hread : Extended.read text with
  | error why => simp [hread, bind, Except.bind] at h
  | ok parsed =>
      cases htake : takeInLookAhead parsed.tree with
      | mk t marked =>
          simp only [hread, htake, bind, Except.bind, pure, Except.pure] at h
          split at h
          · split at h
            · simp [throw, throwThe, MonadExceptOf.throw] at h
            · cases h
              cases marked with
              | true => exact (marks_takeInLookAhead htake).groupCount_pos
              | false => exact (Marks.whole t).groupCount_pos
          · split at h
            · simp [throw, throwThe, MonadExceptOf.throw] at h
            · cases h
              exact Nat.succ_pos parsed.groups

@[simp] theorem length_spans (slots : Automaton.Slots) (groups : Nat) :
    (spans slots groups).length = groups := by
  simp [spans]

/-- A search reports the groups of the matcher. -/
theorem length_search {m : Matcher} {limit : Nat} {h : ByteArray} {start : Nat} {ss : List Span}
    (hs : m.search limit h start = .ok (some ss)) : ss.length = m.groupCount := by
  cases m with
  | automaton a starts groups =>
      simp only [search, Except.ok.injEq, Option.map_eq_some_iff] at hs
      obtain ⟨-, -, rfl⟩ := hs
      exact length_spans _ _
  | plan p slotCount groups =>
      simp only [search] at hs
      cases hfound : p.search h start slotCount limit with
      | error why => simp [hfound, Except.map] at hs
      | ok found =>
          simp only [hfound, Except.map, Except.ok.injEq, Option.map_eq_some_iff] at hs
          obtain ⟨slots, -, rfl⟩ := hs
          exact length_spans _ _

end Matcher

end Leftmost
