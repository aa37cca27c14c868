import Leftmost.Proofs.Expression
import Leftmost.Proofs.Scanner.Start
import Leftmost.Proofs.Text.Mended

/-!
# Leftmost.Proofs.Captures

The groups of a match in units.  The bounds that an engine reports need not lie between characters;
it is enough that each group ends no earlier than it begins.  The map to units never turns two
places round and never leads out of the text, so that the length of a group is a difference that
does not go below 0, and its text is cut out whole:

* `ofFlat?_ne_error_of_inOrder` — in units, too, no group ends before it begins;
* `spans_of_captureOf` — what is given for a group that took part;
* `withText_of_unset` — and for one that did not;
* `exists_conveys_ofFlat` — so all groups of a region are given, whatever pattern reported it;
* `conveys_searchUnits` — a search in units gives those of a region that one of its patterns found.
-/

namespace Leftmost

/-- Groups that took part end no earlier than they begin. -/
def Region.InOrder (r : Region) : Prop := ∀ g, r.isSet g = true → r.first g ≤ r.last g

/-- Decided over the groups that there are. -/
instance (r : Region) : Decidable r.InOrder :=
  decidable_of_iff (r.bounds.toList.all fun b => b.1 ≠ unsetOffset → b.1 ≤ b.2)
    (by simp only [Region.InOrder, Region.forall_isSet_iff, List.all_eq_true, decide_eq_true_eq])

/-- What is given for a group that took part. -/
structure Spans (t : IndexedText) (first last : Offset) (c : TextCapture) : Prop where
  isSet : c.capture.isSet = true
  start : c.capture.start.toNat = t.unitOffset first.toNat
  stop : c.capture.stop.toNat = t.unitOffset last.toNat
  start_le_stop : c.capture.start ≤ c.capture.stop
  stop_le_size : c.capture.stop.toNat ≤ t.size
  /-- The length leads from the start to the end. -/
  length : c.capture.start.toNat + c.capture.length.toNat = c.capture.stop.toNat
  /-- The text reads the units between the two, and has that many again. -/
  text : c.text = Unit16.toText
    (t.units.toList.extract c.capture.start.toNat c.capture.stop.toNat)
  size_text : (Unit16.ofString c.text).size = c.capture.length.toNat

/-- What is given for a group of a region. -/
structure Given (t : IndexedText) (r : Region) (g : Nat) (c : TextCapture) : Prop where
  index : c.capture.index = g
  spans : r.isSet g = true → Spans t (r.first g) (r.last g) c
  /-- A group that took no part lies nowhere and has no text. -/
  unset : r.isSet g = false → c = { capture := ⟨g, unsetOffset, unsetOffset, 0⟩, text := "" }

/-- What is given for all groups of a region. -/
structure Conveys (t : IndexedText) (r : Region) (gs : List TextCapture) : Prop where
  length : gs.length = r.groupCount
  given : ∀ g c, gs[g]? = some c → Given t r g c

/-- A region found by one of the patterns of a scanner, searching in units. -/
def Scanner.Reports (sc : Scanner) (t : IndexedText) (start : Int) (r : Region) : Prop :=
  ∃ k ∈ sc.handles, ∃ p, sc.registry.get? k = some p ∧
    p.search t.bytes (min (byteStart t start) t.bytes.size) t.bytes.size = .ok (some r)

namespace Expression

open Scanner

theorem captures_withTexts (slice : Capture → String) (m : ScanMatch) :
    (withTexts slice m).map TextCapture.capture = m.captures := by
  rw [withTexts, List.map_map]
  exact List.map_id m.captures

/-! ## One group -/

theorem withText_of_unset (slice : Capture → String) {convert : Offset → Offset} {g : Nat}
    {b : Offset × Offset} (hb : b.1 = unsetOffset) {c : Capture}
    (hc : ScanMatch.captureOf convert g b = .ok c) :
    withText slice c = { capture := ⟨g, unsetOffset, unsetOffset, 0⟩, text := "" } := by
  rw [ScanMatch.captureOf_of_unset hb, Except.ok.injEq] at hc
  subst hc
  rfl

/-- A group between two places of a text is given with its length and text. -/
theorem spans_of_le {t : IndexedText} {first last start stop : Offset}
    (hset : start ≠ unsetOffset) (hle : start ≤ stop) (hsize : stop.toNat ≤ t.size)
    (hstart : start.toNat = t.unitOffset first.toNat)
    (hstop : stop.toNat = t.unitOffset last.toNat) (g : Nat) :
    Spans t first last (withText (sliceUnits t) ⟨g, start, stop, stop - start⟩) := by
  have horder : start.toNat ≤ stop.toNat := UInt64.le_iff_toNat_le.mp hle
  have hlength : (stop - start).toNat = stop.toNat - start.toNat :=
    UInt64.toNat_sub_of_le _ _ hle
  have hgiven : withText (sliceUnits t) ⟨g, start, stop, stop - start⟩ =
      { capture := ⟨g, start, stop, stop - start⟩
        text := Unit16.toText (t.units.toList.extract start.toNat stop.toNat) } := by
    simp only [withText, Capture.isSet, bne_iff_ne.mpr hset, if_true, sliceUnits,
      IndexedText.substring_of_le horder hsize]
  rw [hgiven]
  refine {
    isSet := bne_iff_ne.mpr hset
    start := hstart
    stop := hstop
    start_le_stop := hle
    stop_le_size := hsize
    length := ?_
    text := rfl
    size_text := ?_ }
  · rw [hlength]
    exact Nat.add_sub_cancel' horder
  · have hcut : (t.units.toList.extract start.toNat stop.toNat).length =
        stop.toNat - start.toNat := by
      rw [List.extract_eq_take_drop, List.length_take, List.length_drop, Array.length_toList]
      exact Nat.min_eq_left (Nat.sub_le_sub_right hsize _)
    rw [Unit16.size_ofString_toText, hcut, hlength]

/-! ## All groups -/

section

variable {units : Array Unit16} (hsmall : (IndexedText.ofUnits units).bytes.size ≤ UInt32.size)
include hsmall

/-- In units, too, no group ends before it begins, so that the program goes on. -/
theorem ofFlat?_ne_error_of_inOrder {r : Region} (hr : r.InOrder) (index : Nat) (o : Overflow) :
    ScanMatch.ofFlat? (.ofRegion r index) (unitOf (.ofUnits units)) ≠ .error o := by
  intro h
  obtain ⟨g, hset, hlt⟩ := ScanMatch.exists_group_of_ofFlat_eq_error h
  exact absurd (unitOf_mono hsmall (hr g hset)) (UInt64.not_le.mpr hlt)

/-- A group that took part is given between the places that its bounds go to. -/
theorem spans_of_captureOf {b : Offset × Offset} (hset : b.1 ≠ unsetOffset) (hle : b.1 ≤ b.2)
    {g : Nat} {c : Capture} (hc : ScanMatch.captureOf (unitOf (.ofUnits units)) g b = .ok c) :
    Spans (.ofUnits units) b.1 b.2 (withText (sliceUnits (.ofUnits units)) c) := by
  have hlast := toNat_unitOf hsmall b.2
  have horder := unitOf_mono hsmall hle
  rw [ScanMatch.captureOf_of_set hset, Capture.ofBounds_of_le g horder, Except.ok.injEq] at hc
  subst hc
  refine spans_of_le (unitOf_ne_unsetOffset hsmall b.1) horder ?_ (toNat_unitOf hsmall b.1) hlast g
  rw [hlast]
  exact (IndexedText.laidOut_ofUnits units).unitOffset_le hsmall b.2.toNat

theorem given_of_captureOf {r : Region} (hr : r.InOrder) {g : Nat} {c : Capture}
    (hc : ScanMatch.captureOf (unitOf (.ofUnits units)) g (r.bound g) = .ok c) :
    Given (.ofUnits units) r g (withText (sliceUnits (.ofUnits units)) c) where
  index := ScanMatch.index_of_captureOf hc
  spans hset := spans_of_captureOf hsmall (bne_iff_ne.mp hset) (hr g hset) hc
  unset hunset := withText_of_unset _ (bne_eq_false_iff_eq.mp hunset) hc

theorem conveys_of_capturesFrom {r : Region} (hr : r.InOrder) {m : ScanMatch}
    (hm : ScanMatch.capturesFrom (unitOf (.ofUnits units)) 0 r.bounds.toList = .ok m.captures) :
    Conveys (.ofUnits units) r (withTexts (sliceUnits (.ofUnits units)) m) := by
  constructor
  · rw [withTexts, List.length_map, ScanMatch.length_of_capturesFrom hm, Array.length_toList]
    rfl
  · intro g c hc
    rw [withTexts, List.getElem?_map, Option.map_eq_some_iff] at hc
    obtain ⟨k, hk, rfl⟩ := hc
    have hg := ScanMatch.getElem?_of_capturesFrom hm g
    rw [hk, Option.map_some, Nat.zero_add, eq_comm, Option.map_eq_some_iff] at hg
    obtain ⟨b, hb, hcapture⟩ := hg
    obtain ⟨hlt, -⟩ := List.getElem?_eq_some_iff.mp hb
    rw [Array.length_toList] at hlt
    obtain rfl : r.bound g = b := Option.some.inj ((r.getElem?_bounds hlt).symm.trans hb)
    exact given_of_captureOf hsmall hr hcapture

/-- All groups of a region are given, whatever pattern reported it. -/
theorem exists_conveys_ofFlat {r : Region} (hr : r.InOrder) (index : Nat) :
    ∃ found, ScanMatch.ofFlat? (.ofRegion r index) (unitOf (.ofUnits units)) = .ok found ∧
      ∀ m, found = some m →
        Conveys (.ofUnits units) r (withTexts (sliceUnits (.ofUnits units)) m) := by
  cases hflat : ScanMatch.ofFlat? (.ofRegion r index) (unitOf (.ofUnits units)) with
  | error o => exact absurd hflat (ofFlat?_ne_error_of_inOrder hsmall hr index o)
  | ok found =>
      refine ⟨found, rfl, ?_⟩
      rintro m rfl
      exact conveys_of_capturesFrom hsmall hr (ScanMatch.captures_of_ofFlat hflat)

end

/-! ## Both searches in units -/

/-- The texts come to the groups of a match, and change nothing else. -/
theorem mapFound_withTexts (slice : Capture → String)
    (outcome : Except ScanError (Except Overflow (Option ScanMatch))) :
    mapFound (List.map TextCapture.capture) (mapFound (withTexts slice) outcome) =
      mapFound ScanMatch.captures outcome := by
  rcases outcome with err | o | _ | m
  · rfl
  · rfl
  · rfl
  · simp only [mapFound, Except.map, Option.map_some, captures_withTexts]

/-- What is made of a match is made of nothing else, -/
theorem mapFound_eq_some_iff {α β : Type} {f : α → β}
    {outcome : Except ScanError (Except Overflow (Option α))} {b : β} :
    mapFound f outcome = .ok (.ok (some b)) ↔ ∃ a, outcome = .ok (.ok (some a)) ∧ f a = b := by
  rcases outcome with err | o | _ | a <;> simp [mapFound, Except.map]

/-- and where the program stops, it has stopped before. -/
theorem mapFound_eq_error_iff {α β : Type} {f : α → β}
    {outcome : Except ScanError (Except Overflow (Option α))} {o : Overflow} :
    mapFound f outcome = .ok (.error o) ↔ outcome = .ok (.error o) := by
  rcases outcome with err | o' | _ | a <;> simp [mapFound, Except.map]

/-- The groups of a match in units are those of the region found, each with its text, whatever
region a pattern reports. Only a region that is out of order stops a search. -/
theorem conveys_searchUnits {units : Array Unit16}
    (hsmall : (IndexedText.ofUnits units).bytes.size ≤ UInt32.size) :
    (∀ r : Region, r.InOrder → ∀ index, ∃ found,
      ScanMatch.ofFlat? (.ofRegion r index) (unitOf (.ofUnits units)) = .ok found ∧
        ∀ m, found = some m →
          Conveys (.ofUnits units) r (withTexts (sliceUnits (.ofUnits units)) m)) ∧
    ∀ (e : Expression) (start : Int),
      mapFound (List.map TextCapture.capture) (e.searchUnits (.ofUnits units) start).value =
        mapFound ScanMatch.captures (e.scanner.findNextUnits (.ofUnits units) start).value ∧
      (∀ gs, (e.searchUnits (.ofUnits units) start).value = .ok (.ok (some gs)) →
        ∃ r, e.scanner.Reports (.ofUnits units) start r ∧
          (r.InOrder → Conveys (.ofUnits units) r gs)) ∧
      ∀ o, (e.searchUnits (.ofUnits units) start).value = .ok (.error o) →
        ∃ r, e.scanner.Reports (.ofUnits units) start r ∧ ¬r.InOrder := by
  refine ⟨fun r hr index => exists_conveys_ofFlat hsmall hr index, fun e start => ?_⟩
  rw [searchUnits, Logged.value_map]
  refine ⟨mapFound_withTexts _ _, fun gs hgs => ?_, fun o ho => ?_⟩
  · obtain ⟨m, hm, rfl⟩ := mapFound_eq_some_iff.mp hgs
    obtain ⟨k, p, r, hk, hp, hsearch, hflat⟩ := exists_winner_of_findNextUnits hm
    refine ⟨r, ⟨k, List.mem_of_getElem? hk, p, hp, hsearch⟩, fun hr => ?_⟩
    exact conveys_of_capturesFrom hsmall hr (ScanMatch.captures_of_ofFlat hflat)
  · have hstops := mapFound_eq_error_iff.mp ho
    obtain ⟨index, k, p, r, hk, hp, hsearch, hflat⟩ := exists_winner_of_ofFlat hstops (by simp)
    refine ⟨r, ⟨k, List.mem_of_getElem? hk, p, hp, hsearch⟩, fun hr => ?_⟩
    exact ofFlat?_ne_error_of_inOrder hsmall hr index o hflat

/-- A pattern of the bytes of a wide character but for its first. -/
def laterBytes : String := "((?-u:\\x9f\\x92))(?-u:\\xbb)b|(x)"

/-- A match that begins inside a pair, a group that ends there as well, and one that took no
part. -/
theorem conveys_inside_pair : ∃ e gs,
    (Expression.ofPattern laterBytes { engine := .standard }).value = .ok e ∧
      (IndexedText.ofUnits #[0x61, 0xd83d, 0xdcbb, 0x62]).bytes.size ≤ UInt32.size ∧
      (e.searchUnits (.ofUnits #[0x61, 0xd83d, 0xdcbb, 0x62]) 0).value = .ok (.ok (some gs)) ∧
      Conveys (.ofUnits #[0x61, 0xd83d, 0xdcbb, 0x62])
        ⟨#[(2, 6), (2, 4), (unsetOffset, unsetOffset)]⟩ gs := by
  have hfound : ((Expression.ofPattern laterBytes { engine := .standard }).value.toOption.bind
      fun e => found? (e.searchUnits (.ofUnits #[0x61, 0xd83d, 0xdcbb, 0x62]) 0).value).isSome =
        true := by decide +kernel
  have hregion : ((Compiler.ofSettings { engine := .standard }).compile laterBytes).toOption.bind
      (fun p => (p.search (IndexedText.ofUnits #[0x61, 0xd83d, 0xdcbb, 0x62]).bytes
        (min (byteStart (.ofUnits #[0x61, 0xd83d, 0xdcbb, 0x62]) 0)
          (IndexedText.ofUnits #[0x61, 0xd83d, 0xdcbb, 0x62]).bytes.size)
        (IndexedText.ofUnits #[0x61, 0xd83d, 0xdcbb, 0x62]).bytes.size).toOption.join) =
      some ⟨#[(2, 6), (2, 4), (unsetOffset, unsetOffset)]⟩ := by decide +kernel
  obtain ⟨gs, hgs⟩ := Option.isSome_iff_exists.mp hfound
  obtain ⟨e, he, hgs⟩ := Option.bind_eq_some_iff.mp hgs
  have he := eq_ok_of_toOption he
  have hgs := eq_of_found hgs
  have hsmall : (IndexedText.ofUnits #[0x61, 0xd83d, 0xdcbb, 0x62]).bytes.size ≤ UInt32.size := by
    decide
  obtain ⟨-, hgroups, -⟩ := (conveys_searchUnits hsmall).2 e 0
  obtain ⟨r, ⟨k, hk, p, hp, hr⟩, hconveys⟩ := hgroups gs hgs
  rw [compile_of_ofPattern he hk hp] at hregion
  obtain rfl : r = _ := by simpa [hr, Except.toOption] using hregion
  exact ⟨e, gs, he, hsmall, hgs, hconveys (by decide)⟩

end Expression

end Leftmost
