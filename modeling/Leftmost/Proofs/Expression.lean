import Leftmost.Expression
import Leftmost.Proofs.Scanner.Sources

/-!
# Leftmost.Proofs.Expression

A search for a pattern in the bytes of a text and one in its units.  Both run on the same bytes;
they differ in what is made of a match.  The one gives the offsets as they are and cuts the texts of
the groups out of the bytes, the other converts the offsets and cuts the texts out of the units.

* `compile_of_ofPattern` — an expression searches with its pattern, as its settings compile it;
* `exists_sameGroups` — the two ways to give groups, if they lie between characters;
* `agree_search_searchUnits` — whatever the one search answers, the other does.
-/

namespace Leftmost

/-! ## Groups between characters -/

/-- The bounds of a group lie in a text, in order and between characters. -/
structure IsPlaced (text : ByteArray) (first last : Offset) : Prop where
  le : first ≤ last
  le_size : last.toNat ≤ text.size
  boundary_first : Utf8.isBoundary text first.toNat = true
  boundary_last : Utf8.isBoundary text last.toNat = true

/-- All groups that took part lie so. -/
def Region.PlacedIn (r : Region) (text : ByteArray) : Prop :=
  ∀ g, r.isSet g = true → IsPlaced text (r.first g) (r.last g)

theorem Region.first_of_groupCount_le {r : Region} {g : Nat} (h : r.groupCount ≤ g) :
    r.first g = unsetOffset := by
  simp [first, bound, boundsOf, Array.getElem?_eq_none h]

/-- What holds of the groups that took part has only to hold of the groups that there are. -/
theorem Region.forall_isSet_iff {r : Region} {P : Offset → Offset → Prop} :
    (∀ g, r.isSet g = true → P (r.first g) (r.last g)) ↔
      ∀ b ∈ r.bounds.toList, b.1 ≠ unsetOffset → P b.1 b.2 := by
  rw [FlatMatch.bounds_eq_map]
  constructor
  · intro h b hb hset
    obtain ⟨g, -, rfl⟩ := List.mem_map.mp hb
    exact h g (bne_iff_ne.mpr hset)
  · intro h g hset
    have hne : r.first g ≠ unsetOffset := bne_iff_ne.mp hset
    have hg : g < r.groupCount := Nat.lt_of_not_le fun hle => hne (first_of_groupCount_le hle)
    exact h (r.bound g) (List.mem_map_of_mem (List.mem_range.mpr hg)) hne

theorem Region.placedIn_iff {r : Region} {text : ByteArray} : r.PlacedIn text ↔
    ∀ b ∈ r.bounds.toList, b.1 ≠ unsetOffset → IsPlaced text b.1 b.2 := forall_isSet_iff

instance (text : ByteArray) (first last : Offset) : Decidable (IsPlaced text first last) :=
  decidable_of_iff (first ≤ last ∧ last.toNat ≤ text.size ∧
      Utf8.isBoundary text first.toNat = true ∧ Utf8.isBoundary text last.toNat = true)
    ⟨fun ⟨hle, hsize, hfirst, hlast⟩ => ⟨hle, hsize, hfirst, hlast⟩,
      fun ⟨hle, hsize, hfirst, hlast⟩ => ⟨hle, hsize, hfirst, hlast⟩⟩

/-- Decided over the groups that there are. -/
instance (r : Region) (text : ByteArray) : Decidable (r.PlacedIn text) :=
  decidable_of_iff
    (r.bounds.toList.all fun b => b.1 ≠ unsetOffset → IsPlaced text b.1 b.2)
    (by simp only [Region.placedIn_iff, List.all_eq_true, decide_eq_true_eq])

namespace Expression

open Scanner

/-! ## The same groups in both forms -/

/-- A group given in units is the one given in bytes. -/
structure SameGroup (t : IndexedText) (inBytes inUnits : TextCapture) : Prop where
  index : inUnits.capture.index = inBytes.capture.index
  isSet : inUnits.capture.isSet = inBytes.capture.isSet
  text : inUnits.text = inBytes.text
  start : inBytes.capture.isSet = true →
    inUnits.capture.start.toNat = t.unitOffset inBytes.capture.start.toNat
  stop : inBytes.capture.isSet = true →
    inUnits.capture.stop.toNat = t.unitOffset inBytes.capture.stop.toNat
  /-- Its offsets go back to exactly those in bytes. -/
  start_back : inBytes.capture.isSet = true →
    t.byteOffset inUnits.capture.start.toNat = inBytes.capture.start.toNat
  stop_back : inBytes.capture.isSet = true →
    t.byteOffset inUnits.capture.stop.toNat = inBytes.capture.stop.toNat

/-- A search in units answers what one in bytes does, and neither stops. -/
inductive Agree (t : IndexedText) :
    Except ScanError (Except Overflow (Option (List TextCapture))) →
    Except ScanError (Except Overflow (Option (List TextCapture))) → Prop where
  | failed (e : ScanError) : Agree t (.error e) (.error e)
  | missed : Agree t (.ok (.ok none)) (.ok (.ok none))
  | found {inBytes inUnits : List TextCapture} : List.Forall₂ (SameGroup t) inBytes inUnits →
      Agree t (.ok (.ok (some inBytes))) (.ok (.ok (some inUnits)))

/-- A group with its text. -/
def withText (slice : Capture → String) (c : Capture) : TextCapture :=
  { capture := c, text := if c.isSet then slice c else "" }

section

variable {s : String} (hs : s.utf8ByteSize ≤ UInt32.size)
include hs

/-- A group that took part, given in both ways. -/
theorem sameGroup_of_isPlaced {first last : Offset} (hset : first ≠ unsetOffset)
    (h : IsPlaced s.toUTF8 first last) {index : Nat} {c d : Capture}
    (hc : Capture.ofBounds index first last = .ok c)
    (hd : Capture.ofBounds index (unitOf (.ofString s) first) (unitOf (.ofString s) last) = .ok d) :
    SameGroup (.ofString s) (withText (sliceBytes s) c) (withText (sliceUnits (.ofString s)) d) := by
  have hsmall := IndexedText.size_bytes_ofString_le hs
  have hsetUnits : unitOf (.ofString s) first ≠ unsetOffset := unitOf_ne_unsetOffset hsmall first
  have hfirst : (unitOf (.ofString s) first).toNat =
      (IndexedText.ofString s).unitOffset first.toNat := toNat_unitOf hsmall first
  have hlast : (unitOf (.ofString s) last).toNat =
      (IndexedText.ofString s).unitOffset last.toNat := toNat_unitOf hsmall last
  obtain ⟨hcindex, rfl, rfl⟩ := Capture.of_ofBounds hc
  obtain ⟨hdindex, hdstart, hdstop⟩ := Capture.of_ofBounds hd
  have hcset : c.isSet = true := bne_iff_ne.mpr hset
  have hdset : d.isSet = true := bne_iff_ne.mpr (hdstart ▸ hsetUnits)
  refine {
    index := hdindex.trans hcindex.symm
    isSet := hdset.trans hcset.symm
    text := ?_
    start := fun _ => (congrArg UInt64.toNat hdstart).trans hfirst
    stop := fun _ => (congrArg UInt64.toNat hdstop).trans hlast
    start_back := fun _ => ?_
    stop_back := fun _ => ?_ }
  · have htext := IndexedText.substring_unitOffset hs (UInt64.le_iff_toNat_le.mp h.le)
      h.boundary_first h.boundary_last
    simp only [withText, hcset, hdset, if_true, sliceUnits, sliceBytes, hdstart, hdstop, hfirst,
      hlast, htext]
  · simp only [withText, hdstart, hfirst]
    exact IndexedText.byteOffset_unitOffset hs h.boundary_first
  · simp only [withText, hdstop, hlast]
    exact IndexedText.byteOffset_unitOffset hs h.boundary_last

/-- A group between characters has a length in both ways. -/
theorem not_endsBefore_of_isPlaced {b : Offset × Offset}
    (h : b.1 ≠ unsetOffset → IsPlaced s.toUTF8 b.1 b.2) :
    ¬ScanMatch.EndsBefore id b ∧ ¬ScanMatch.EndsBefore (unitOf (.ofString s)) b := by
  have hsmall := IndexedText.size_bytes_ofString_le hs
  refine ⟨fun ⟨hset, hlt⟩ => ?_, fun ⟨hset, hlt⟩ => ?_⟩
  · exact absurd (h hset).le (UInt64.not_le.mpr hlt)
  · exact absurd (unitOf_mono hsmall (h hset).le) (UInt64.not_le.mpr hlt)

/-- The groups of a match, given in both ways. -/
theorem exists_sameGroups {bounds : List (Offset × Offset)}
    (h : ∀ b ∈ bounds, b.1 ≠ unsetOffset → IsPlaced s.toUTF8 b.1 b.2) (index : Nat) :
    ∃ cs ds, ScanMatch.capturesFrom id index bounds = .ok cs ∧
      ScanMatch.capturesFrom (unitOf (.ofString s)) index bounds = .ok ds ∧
      List.Forall₂ (SameGroup (.ofString s)) (cs.map (withText (sliceBytes s)))
        (ds.map (withText (sliceUnits (.ofString s)))) := by
  have hlength := fun b hb => not_endsBefore_of_isPlaced hs (h b hb)
  obtain ⟨cs, hcs⟩ := ScanMatch.exists_capturesFrom (fun b hb => (hlength b hb).1) index
  obtain ⟨ds, hds⟩ := ScanMatch.exists_capturesFrom (fun b hb => (hlength b hb).2) index
  refine ⟨cs, ds, hcs, hds, ?_⟩
  clear hlength
  induction bounds generalizing index cs ds with
  | nil =>
      cases hcs
      cases hds
      exact .nil
  | cons b bounds ih =>
      obtain ⟨c, cs, hc, hcsRest, rfl⟩ := ScanMatch.capturesFrom_cons_eq_ok_iff.mp hcs
      obtain ⟨d, ds, hd, hdsRest, rfl⟩ := ScanMatch.capturesFrom_cons_eq_ok_iff.mp hds
      refine .cons ?_ (ih (fun b hb => h b (by simp [hb])) (index + 1) cs hcsRest ds hdsRest)
      by_cases hset : b.1 = unsetOffset
      · -- A group that took no part is given alike.
        rw [ScanMatch.captureOf_of_unset hset, Except.ok.injEq] at hc hd
        subst hc hd
        constructor <;> simp [withText, Capture.isSet]
      · rw [ScanMatch.captureOf_of_set hset] at hc hd
        exact sameGroup_of_isPlaced hs hset (h b (by simp) hset) hc hd

/-- What is made of an answer in the two ways. -/
theorem agree_ofFlat {answer : Except ScanError FlatMatch}
    (h : ∀ m, answer = .ok m → m.isMatch = true →
      ∀ b ∈ m.groups, b.1 ≠ unsetOffset → IsPlaced s.toUTF8 b.1 b.2) :
    Agree (.ofString s)
      (mapFound (withTexts (sliceBytes s)) (answer.map fun m => ScanMatch.ofFlat? m id))
      (mapFound (withTexts (sliceUnits (.ofString s)))
        (answer.map fun m => ScanMatch.ofFlat? m (unitOf (.ofString s)))) := by
  cases answer with
  | error e => exact .failed e
  | ok m =>
      cases hm : m.isMatch with
      | false =>
          simp only [Except.map, mapFound, ScanMatch.ofFlat?_eq_none_iff.mpr hm]
          exact .missed
      | true =>
          obtain ⟨cs, ds, hcs, hds, hsame⟩ := exists_sameGroups hs (h m rfl hm) 0
          simp only [Except.map, mapFound, ScanMatch.ofFlat?, hm, hcs, hds]
          exact .found hsame

end

/-! ## The pattern of an expression -/

/-- An expression searches with its pattern, as its settings compile it. -/
theorem compile_of_ofPattern {source : String} {settings : Settings} {engines : Engines}
    {e : Expression} (he : (Expression.ofPattern source settings engines).value = .ok e)
    {h : Handle} {p : Compiled} (hmem : h ∈ e.scanner.handles)
    (hp : e.scanner.registry.get? h = some p) :
    (Compiler.ofSettings settings engines).compile source = .ok p := by
  rw [Expression.ofPattern, Logged.value_map] at he
  cases hsc : (Scanner.ofPatterns [source] settings engines).value with
  | error err =>
      rw [hsc] at he
      cases he
  | ok sc =>
      rw [hsc] at he
      cases he
      obtain ⟨text, htext, hcompiled⟩ := compile_of_mem_handles hsc hmem hp
      rwa [List.mem_singleton.mp htext] at hcompiled

/-- A search for a pattern in units answers what the search in bytes does, if its matches lie
between characters. -/
theorem agree_search_searchUnits {source : String} {settings : Settings} {engines : Engines}
    {e : Expression} (he : (Expression.ofPattern source settings engines).value = .ok e)
    {s : String} (hs : s.utf8ByteSize ≤ UInt32.size) (start : Int)
    (hplaced : ∀ p r, (Compiler.ofSettings settings engines).compile source = .ok p →
      p.search s.toUTF8 (min ((IndexedText.ofString s).byteOffset start.toNat) s.toUTF8.size)
        s.toUTF8.size = .ok (some r) → r.PlacedIn s.toUTF8) :
    Agree (.ofString s) (e.search s ((IndexedText.ofString s).byteOffset start.toNat)).value
      (e.searchUnits (.ofString s) start).value := by
  rw [search, searchUnits, Logged.value_map, Logged.value_map, value_findNext,
    value_findNextUnits, byteStart, IndexedText.bytes_ofString]
  refine agree_ofFlat hs fun m hm hmatch => ?_
  obtain ⟨k, hk, p, r, hp, hsearch, hgroups⟩ := Registry.exists_region_of_findBest hm hmatch
  rw [hgroups]
  exact Region.placedIn_iff.mp (hplaced p r (compile_of_ofPattern he hk hp) hsearch)

/-- A group of a wide character that is searched for behind another, and one that takes no part. -/
theorem agree_behind_wide : ∃ e gs,
    (Expression.ofPattern "(💻)|(x)" { engine := .backtracking }).value = .ok e ∧
      (e.search "aé💻b" 1).value = .ok (.ok (some gs)) ∧
      Agree (.ofString "aé💻b")
        (e.search "aé💻b" ((IndexedText.ofString "aé💻b").byteOffset 1)).value
        (e.searchUnits (.ofString "aé💻b") 1).value := by
  have hfound : ((Expression.ofPattern "(💻)|(x)" { engine := .backtracking }).value.toOption.bind
      fun e => found? (e.search "aé💻b" 1).value).isSome = true := by decide +kernel
  have hregion : ((Compiler.ofSettings { engine := .backtracking }).compile "(💻)|(x)").toOption.bind
      (fun p => (p.search "aé💻b".toUTF8 1 "aé💻b".toUTF8.size).toOption.join) =
        some ⟨#[(3, 7), (3, 7), (unsetOffset, unsetOffset)]⟩ := by decide +kernel
  have hstart : min ((IndexedText.ofString "aé💻b").byteOffset (1 : Int).toNat)
      "aé💻b".toUTF8.size = 1 := by
    rw [IndexedText.byteOffset_ofString (by decide)]
    decide +kernel
  obtain ⟨gs, hgs⟩ := Option.isSome_iff_exists.mp hfound
  obtain ⟨e, he, hgs⟩ := Option.bind_eq_some_iff.mp hgs
  refine ⟨e, gs, eq_ok_of_toOption he, eq_of_found hgs,
    agree_search_searchUnits (eq_ok_of_toOption he) (by decide) 1 ?_⟩
  intro p r hp hr
  rw [hstart] at hr
  simp only [hp, hr, Except.toOption, Option.bind_some, Option.join_some,
    Option.some.injEq] at hregion
  rw [hregion]
  decide +kernel

end Expression

end Leftmost
