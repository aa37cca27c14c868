import Leftmost.Proofs.Registry.Search
import Leftmost.Proofs.Text.Mended
import Leftmost.Scanner

/-!
# Leftmost.Proofs.Scanner.Aligned

A search in units never stumbles over the bytes of its text.  However ill-formed the units are, the
bytes are UTF-8, and whatever start is asked for goes to a place between two characters:

* `LaidOut.isBoundary_byteOffset` — the byte offset of a unit is a boundary;
* `Compiled.searchBy_of_isBoundary` — from a boundary of UTF-8 either engine is asked at once, with
  no step to the next one;
* `Registry.code_of_findBest` — a search of UTF-8 fails for a token that stands for nothing, or where
  a limit is overrun;
* `asksOnBoundary_findNextUnits` — hence what a search in units asks, and what it never fails with.
-/

namespace Leftmost

namespace IndexedText

open Row

theorem isValidUTF8_bytes (units : Array Unit16) : (ofUnits units).bytes.IsValidUTF8 := by
  rw [bytes_eq_toUTF8]
  exact (ofUnits units).toText.isValidUTF8

/-- The byte offset of a unit is where a character begins, or the end. -/
theorem LaidOut.isBoundary_byteOffset {t : IndexedText} {cs : Row} (h : LaidOut t cs)
    (hsmall : t.bytes.size ≤ UInt32.size) (u : Nat) :
    Utf8.isBoundary t.bytes (t.byteOffset u) = true := by
  rw [h.byteOffset_eq hsmall, h.bytes_eq, isBoundary_encode_iff]
  rcases Nat.lt_or_ge u (unitLength cs) with hlt | hge
  · obtain ⟨j, -, hj⟩ := byteOf_eq hlt
    exact ⟨j, hj⟩
  · exact ⟨cs.length, by rw [byteOf_of_le hge, List.take_length]⟩

end IndexedText

/-- A boundary is its own next one. -/
theorem Utf8.nextBoundary_of_isBoundary {b : ByteArray} {p : Nat} (h : isBoundary b p = true) :
    nextBoundary b p = p :=
  Nat.le_antisymm (nextBoundary_le_of_isBoundary (Nat.le_refl p) h) (le_nextBoundary b p)

namespace Compiled

/-- From a boundary of UTF-8 either engine is asked at once. -/
theorem searchBy_of_isBoundary {m : Type → Type} [Monad m] (engine : Engine) (ask : Asked m)
    {h : ByteArray} (hvalid : h.IsValidUTF8) {start : Nat} (hle : start ≤ h.size)
    (hstart : Utf8.isBoundary h start = true) :
    searchBy engine ask h start h.size = answer <$> ask h start := by
  cases engine with
  | standard => rw [searchBy_standard, textTo_size, rangeStart_size, Nat.min_eq_left hle]
  | backtracking =>
      rw [searchBy_of_isValidUTF8 ask h start h.size (by rwa [textTo_size]), textTo_size,
        rangeStart_size, Nat.min_eq_left hle, Utf8.nextBoundary_of_isBoundary hstart]

end Compiled

namespace Registry

open Selection

/-- A search depends on how patterns look from its start to the end of its text. -/
theorem findBestBy_congr {m : Type → Type} [Monad m] {look look' : Compiled → Searcher m}
    {text : ByteArray} {start : Nat} (h : ∀ p, look p text (min start text.size) text.size =
      look' p text (min start text.size) text.size) (r : Registry) (hs : List Handle) :
    r.findBestBy look hs text start = r.findBestBy look' hs text start := by
  unfold findBestBy
  cases r.getAll hs with
  | error e => rfl
  | ok ps => simp only [select, selectFrom_congr (w := .ofStart text start) (fun p _ => h p)]

/-- A search of UTF-8 fails for a token that stands for nothing, or where a limit is overrun. -/
theorem code_of_findBest {r : Registry} {hs : List Handle} {text : ByteArray}
    (hvalid : text.IsValidUTF8) {start : Nat} {e : ScanError}
    (he : (r.findBest hs text start).value = .error e) :
    e.code = .invalidHandle ∨ e.code = .stackLimit ∨ e.code = .memory := by
  rcases getAll_spec r hs with ⟨ps, -, hall⟩ | ⟨k, -, hall⟩
  · rw [value_findBest hall] at he
    rcases verdict_spec (ownOutcomes ps text start) with ⟨i, f, hf, hv⟩ | ⟨-, best, hv, -⟩
    · obtain ⟨p, -, hp⟩ := getElem?_ownOutcomes.mp hf.1
      rw [hv, Except.map, Except.error.injEq] at he
      subst he
      exact .inr (Compiled.code_of_search_of_isValidUTF8 hvalid hp)
    · rw [hv] at he
      cases he
  · rw [findBest, hall, Except.error.injEq] at he
    subst he
    exact .inl rfl

end Registry

namespace Scanner

open Compiled

/-- A search in units in which each pattern looks as it is told, with whatever effects that has. -/
def findNextUnitsBy {m : Type → Type} [Monad m] (look : Compiled → Searcher m) (sc : Scanner)
    (t : IndexedText) (start : Int) :
    m (Logged (Except ScanError (Except Overflow (Option ScanMatch)))) := do
  let best ← sc.registry.findBestBy look sc.handles t.bytes (byteStart t start)
  return best.map fun best => best.map fun m => ScanMatch.ofFlat? m (unitOf t)

/-- A search in units is one whose patterns ask their own matchers. -/
theorem findNextUnits_eq (sc : Scanner) (t : IndexedText) (start : Int) :
    sc.findNextUnits t start =
      Id.run (sc.findNextUnitsBy (fun p => searchBy p.engine p.own) t start) := by
  have hown : sc.findBest t.bytes (byteStart t start) = Id.run (sc.registry.findBestBy
      (fun p => searchBy p.engine p.own) sc.handles t.bytes (byteStart t start)) := by
    rw [findBest, Registry.findBest_eq]
    exact congrArg Id.run (Registry.findBestBy_congr (fun p => search_eq_searchBy p ..) ..)
  rw [findNextUnits, hown]
  rfl

/-- What a search in units asks of its engines, and what it never fails with. -/
structure AsksOnBoundary (sc : Scanner) (t : IndexedText) (start : Int) : Prop where
  /-- The start in bytes lies in the text, between two characters. -/
  in_text : byteStart t start ≤ t.bytes.size
  boundary : Utf8.isBoundary t.bytes (byteStart t start) = true
  /-- The way to the next boundary takes no step. -/
  unmoved : Utf8.alignWithin t.bytes 0 (byteStart t start) = some (byteStart t start)
  /-- The search asks by the patterns' engines, -/
  own : sc.findNextUnits t start =
    Id.run (sc.findNextUnitsBy (fun p => searchBy p.engine p.own) t start)
  /-- and whatever engines are asked, they are asked from that start on, over the whole text. -/
  asked : ∀ {m : Type → Type} [Monad m] (ask : Compiled → Asked m),
    sc.findNextUnitsBy (fun p => searchBy p.engine (ask p)) t start =
      sc.findNextUnitsBy (fun p _ _ _ => answer <$> ask p t.bytes (byteStart t start)) t start
  /-- It does not fail for a text that is not UTF-8. -/
  code : ∀ e, (sc.findNextUnits t start).value = .error e → e.code ≠ .invalidCodePoint

/-- However ill-formed its units are, a text is searched from a boundary of its bytes on, and no
search fails for them. -/
theorem asksOnBoundary_findNextUnits {units : Array Unit16}
    (hsmall : (IndexedText.ofUnits units).bytes.size ≤ UInt32.size) (sc : Scanner) (start : Int) :
    AsksOnBoundary sc (.ofUnits units) start := by
  have h := IndexedText.laidOut_ofUnits units
  have hvalid := IndexedText.isValidUTF8_bytes units
  have hle : byteStart (.ofUnits units) start ≤ (IndexedText.ofUnits units).bytes.size :=
    h.byteOffset_le hsmall start.toNat
  have hboundary : Utf8.isBoundary (IndexedText.ofUnits units).bytes
      (byteStart (.ofUnits units) start) = true := h.isBoundary_byteOffset hsmall start.toNat
  refine {
    in_text := hle
    boundary := hboundary
    unmoved := by rw [Utf8.alignWithin, if_pos hboundary]
    own := findNextUnits_eq sc _ start
    asked := fun ask => ?_
    code := fun e he => ?_ }
  · unfold findNextUnitsBy
    rw [Registry.findBestBy_congr fun p => ?_]
    rw [Nat.min_eq_left hle]
    exact searchBy_of_isBoundary p.engine (ask p) hvalid hle hboundary
  · rw [value_findNextUnits] at he
    cases hbest : (sc.findBest (IndexedText.ofUnits units).bytes
        (byteStart (.ofUnits units) start)).value with
    | ok best =>
        rw [hbest] at he
        cases he
    | error e' =>
        rw [hbest, Except.map, Except.error.injEq] at he
        subst he
        rcases Registry.code_of_findBest hvalid hbest with hcode | hcode | hcode <;> simp [hcode]

/-- A pair between two unpaired surrogates, searched from its second unit on. -/
theorem asksOnBoundary_between_unpaired : ∃ sc, (ofPatterns ["💻"] {}).value = .ok sc ∧
    (IndexedText.ofUnits #[0xd83d, 0xd83d, 0xdcbb, 0xdcbb]).bytes.size ≤ UInt32.size ∧
    byteStart (.ofUnits #[0xd83d, 0xd83d, 0xdcbb, 0xdcbb]) 2 = 3 ∧
    AsksOnBoundary sc (.ofUnits #[0xd83d, 0xd83d, 0xdcbb, 0xdcbb]) 2 := by
  have hmade : (ofPatterns ["💻"] {}).value.toOption.isSome = true := by decide +kernel
  obtain ⟨sc, hsc⟩ := Option.isSome_iff_exists.mp hmade
  have hsmall : (IndexedText.ofUnits #[0xd83d, 0xd83d, 0xdcbb, 0xdcbb]).bytes.size ≤
      UInt32.size := by decide
  exact ⟨sc, eq_ok_of_toOption hsc, hsmall, by decide +kernel,
    asksOnBoundary_findNextUnits hsmall sc 2⟩

end Scanner

end Leftmost
