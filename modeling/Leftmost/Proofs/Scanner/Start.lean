import Leftmost.Proofs.Scanner.Sources

/-!
# Leftmost.Proofs.Scanner.Start

Where a match begins in units, told from the start that was asked for.  On its way to bytes a start
is moved back to the beginning of its character, and so is the match on its way to units; a start
between the two units of a pair therefore lets a match begin one unit before it:

* `unitOffset_byteOffset` — a unit goes to bytes and back to itself, unless it is the second of a
  pair;
* `exists_begin?_of_findNextUnits` — a match begins at or behind the start, or at the pair that the
  start splits;
* `search_emptyPattern` — the pattern that matches nothing matches wherever the search starts;
* `start_le_begin?_iff` — hence matches of all scanners begin at or behind a start exactly if it
  does not split a pair.
-/

namespace Leftmost

/-- In a search from a place to the end of a text, a match begins nowhere before that place. -/
def Compiled.BeginsFrom (p : Compiled) (text : ByteArray) (start : Nat) : Prop :=
  ∀ r, p.search text start text.size = .ok (some r) → start ≤ (r.first 0).toNat

/-- Where a match begins: the start of group 0. -/
def ScanMatch.begin? (m : ScanMatch) : Option Offset := m.captures.head?.map (·.start)

/-- A unit goes to bytes and back to itself, unless it is the second of a pair. -/
theorem IndexedText.unitOffset_byteOffset {units : Array Unit16}
    (hsmall : (ofUnits units).bytes.size ≤ UInt32.size) {u : Nat} (hu : u ≤ units.size) :
    (ofUnits units).unitOffset ((ofUnits units).byteOffset u) =
      if Unit16.splitsPair units.toList u then u - 1 else u := by
  have h := laidOut_ofUnits units
  rw [h.byteOffset_eq hsmall, h.unitOffset_eq hsmall]
  exact Unit16.unitOf_byteOf_decode units.toList (by simpa using hu)

namespace Scanner

/-! ## The beginning of a match -/

/-- What is converted is the region that the pattern at its position found, or no match. -/
theorem exists_winner_of_ofFlat {sc : Scanner} {text : ByteArray} {start : Nat}
    {convert : Offset → Offset} {outcome : Except Overflow (Option ScanMatch)}
    (hout : (sc.findBest text start).value.map (fun best => ScanMatch.ofFlat? best convert) =
      .ok outcome) (hne : outcome ≠ .ok none) :
    ∃ index k p reg, sc.handles[index]? = some k ∧ sc.registry.get? k = some p ∧
      p.search text (min start text.size) text.size = .ok (some reg) ∧
      ScanMatch.ofFlat? (.ofRegion reg index) convert = outcome := by
  cases hbest : (sc.findBest text start).value with
  | error e => simp [hbest, Except.map] at hout
  | ok best =>
      simp only [hbest, Except.map, Except.ok.injEq] at hout
      cases hmatch : best.isMatch with
      | false => exact absurd (hout.symm.trans (ScanMatch.ofFlat?_eq_none_iff.mpr hmatch)) hne
      | true =>
          obtain ⟨k, p, reg, hk, hp, hsearch, heq⟩ :=
            Registry.exists_winner_of_findBest hbest hmatch
          exact ⟨best.index, k, p, reg, hk, hp, hsearch, heq ▸ hout⟩

/-- A match that is converted is the region that the pattern at its position found. -/
theorem exists_region_of_ofFlat {sc : Scanner} {text : ByteArray} {start : Nat}
    {convert : Offset → Offset} {m : ScanMatch}
    (hm : (sc.findBest text start).value.map (fun best => ScanMatch.ofFlat? best convert) =
      .ok (.ok (some m))) :
    ∃ k p reg, sc.handles[m.index]? = some k ∧ sc.registry.get? k = some p ∧
      p.search text (min start text.size) text.size = .ok (some reg) ∧
      ScanMatch.ofFlat? (.ofRegion reg m.index) convert = .ok (some m) := by
  obtain ⟨index, k, p, reg, hk, hp, hsearch, hflat⟩ := exists_winner_of_ofFlat hm (by simp)
  obtain rfl : m.index = index := (ScanMatch.ofFlat?_eq_some_iff.mp hflat).2.1
  exact ⟨k, p, reg, hk, hp, hsearch, hflat⟩

/-- A match in units is the region that the pattern at its position found, converted. -/
theorem exists_winner_of_findNextUnits {sc : Scanner} {t : IndexedText} {start : Int}
    {m : ScanMatch} (hm : (sc.findNextUnits t start).value = .ok (.ok (some m))) :
    ∃ k p reg, sc.handles[m.index]? = some k ∧ sc.registry.get? k = some p ∧
      p.search t.bytes (min (byteStart t start) t.bytes.size) t.bytes.size = .ok (some reg) ∧
      ScanMatch.ofFlat? (.ofRegion reg m.index) (unitOf t) = .ok (some m) :=
  exists_region_of_ofFlat hm

/-- A match of a scanner begins with group 0 of a region that one of its patterns found. -/
theorem exists_head?_of_findNextUnits {sources : List String} {s : Settings} {e : Engines}
    {sc : Scanner} (hsc : (ofPatterns sources s e).value = .ok sc) {t : IndexedText} {start : Int}
    {m : ScanMatch} (hm : (sc.findNextUnits t start).value = .ok (.ok (some m))) :
    ∃ source ∈ sources, ∃ p reg c, (Compiler.ofSettings s e).compile source = .ok p ∧
      p.search t.bytes (min (byteStart t start) t.bytes.size) t.bytes.size = .ok (some reg) ∧
      m.captures.head? = some c ∧
      ScanMatch.captureOf (unitOf t) 0 (reg.first 0, reg.last 0) = .ok c := by
  obtain ⟨k, p, reg, hk, hp, hsearch, hflat⟩ := exists_winner_of_findNextUnits hm
  obtain ⟨source, hsource, hcompiled⟩ := compile_of_mem_handles hsc (List.mem_of_getElem? hk) hp
  have hcount : 0 < reg.groupCount := by
    rw [Compiled.groupCount_search hsearch]
    exact Compiled.IsMade.groupCount_pos ⟨_, source, hcompiled⟩
  have hzero := ScanMatch.getElem?_of_capturesFrom (ScanMatch.captures_of_ofFlat hflat) 0
  rw [reg.getElem?_bounds hcount, Option.map_some, Option.map_eq_some_iff] at hzero
  obtain ⟨c, hc, hcapture⟩ := hzero
  exact ⟨source, hsource, p, reg, c, hcompiled, hsearch,
    List.head?_eq_getElem?.trans hc, hcapture.symm⟩

/-- No pattern of a scanner finds a match before the place that it searches from. -/
def BeginsFrom (sources : List String) (s : Settings) (text : ByteArray) (start : Nat)
    (e : Engines := .builtIn) : Prop :=
  ∀ source ∈ sources, ∀ p, (Compiler.ofSettings s e).compile source = .ok p →
    p.BeginsFrom text start

section

variable {units : Array Unit16} (hsmall : (IndexedText.ofUnits units).bytes.size ≤ UInt32.size)
include hsmall

/-- A match begins at or behind the start, or at the pair that the start splits. -/
theorem exists_begin?_of_findNextUnits {start : Nat} (hstart : start ≤ units.size)
    {sources : List String} {s : Settings} {e : Engines} {sc : Scanner}
    (hsc : (ofPatterns sources s e).value = .ok sc)
    (hengine : BeginsFrom sources s (IndexedText.ofUnits units).bytes
      ((IndexedText.ofUnits units).byteOffset start) e) {m : ScanMatch}
    (hm : (sc.findNextUnits (.ofUnits units) start).value = .ok (.ok (some m))) :
    ∃ o, m.begin? = some o ∧ (start ≤ o.toNat ∨
      Unit16.splitsPair units.toList start = true ∧ o.toNat + 1 = start) := by
  obtain ⟨source, hsource, p, reg, c, hcompiled, hsearch, hhead, hcapture⟩ :=
    exists_head?_of_findNextUnits hsc hm
  have hlo := (IndexedText.laidOut_ofUnits units).byteOffset_le hsmall start
  rw [byteStart, Int.toNat_natCast, Nat.min_eq_left hlo] at hsearch
  have hle := hengine source hsource p hcompiled reg hsearch
  rw [ScanMatch.begin?, hhead, Option.map_some, ScanMatch.start_of_captureOf hcapture]
  refine ⟨_, rfl, ?_⟩
  dsimp only
  split
  · exact .inl (Nat.le_of_lt (Nat.lt_of_le_of_lt hstart (size_lt_unsetOffset hsmall)))
  · -- From the byte of the start on, the match lies no earlier than where the start goes to.
    have hback := IndexedText.unitOffset_byteOffset hsmall hstart
    have hmono := (IndexedText.laidOut_ofUnits units).unitOffset_mono hsmall hle
    rw [toNat_unitOf hsmall]
    cases hsplit : Unit16.splitsPair units.toList start with
    | false =>
        rw [hsplit, if_neg (by simp)] at hback
        exact .inl (by omega)
    | true =>
        rw [hsplit, if_pos rfl] at hback
        have hpos := Unit16.pos_of_splitsPair hsplit
        by_cases hge : start ≤ (IndexedText.ofUnits units).unitOffset (reg.first 0).toNat
        · exact .inl hge
        · exact .inr ⟨rfl, by omega⟩

end

/-! ## A start that splits a pair -/

/-- The pattern that matches nothing at all, as the standard engine compiles it. -/
def emptyPattern : Compiled where
  source := ""
  engine := .standard
  finder := .ofMatcher (.automaton ⟨#[.accept, .mark 1 0, .mark 0 1], 2⟩ .bytes 1)
  backtrackLimit := 1000000

theorem compile_emptyPattern :
    (Compiler.ofSettings { engine := .standard }).compile "" = .ok emptyPattern := by
  with_unfolding_all rfl

/-- It matches wherever a search starts. -/
theorem search_emptyPattern (text : ByteArray) {start : Nat} (hstart : start ≤ text.size) :
    emptyPattern.search text start text.size =
      .ok (some ⟨#[(start.toUInt64, start.toUInt64)]⟩) := by
  obtain ⟨fuel, hfuel⟩ : ∃ fuel, text.size + 1 - start = fuel + 1 :=
    ⟨text.size - start, by omega⟩
  have hpass : emptyPattern.finder.find emptyPattern.backtrackLimit.toNat text start =
      .ok (some [some (start, start)]) := by
    simp [emptyPattern, Finder.ofMatcher, Matcher.search, Automaton.search, Automaton.Course.run,
      Automaton.Course.length, hfuel, Automaton.passFrom, Automaton.arrive,
      Automaton.Starts.allows, Automaton.Course.fuel, Automaton.follow, Automaton.Course.mayEnd,
      Matcher.spans, Plan.groupSpan?]
  simp only [Compiled.search, Compiled.cut_size, Nat.min_eq_left hstart, hpass]
  rfl

/-- The scanner that has only this pattern. -/
def emptyScanner : Scanner where
  registry :=
    { compiler := .ofSettings { engine := .standard }
      slots := #[⟨0, some emptyPattern⟩]
      free := []
      live := 1 }
  handles := [⟨0, 0⟩]

theorem ofPatterns_emptyPattern :
    (ofPatterns [""] { engine := .standard }).value = .ok emptyScanner := by
  have hcompiled : (Registry.ofSettings { engine := .standard }).compile "" =
      (Registry.ofSettings { engine := .standard }).insertCompiled (.ok emptyPattern) := by
    rw [← compile_emptyPattern]
    rfl
  have hstored := Registry.insert_of_room (r := .ofSettings { engine := .standard }) rfl
    (by decide : 0 < Registry.capacity) emptyPattern
  have hvalid : ofPatterns [""] { engine := .standard } =
      compileAll (.ofSettings { engine := .standard }) [] [""] := rfl
  simp only [hvalid, compileAll, hcompiled, Registry.insertCompiled, hstored]
  rfl

theorem findBest_emptyScanner (text : ByteArray) {start : Nat} (hstart : start ≤ text.size) :
    (emptyScanner.findBest text start).value =
      .ok ⟨0, #[start.toUInt64, start.toUInt64]⟩ := by
  have hall : emptyScanner.registry.getAll emptyScanner.handles = .ok [emptyPattern] := rfl
  rw [findBest, Registry.value_findBest hall, Registry.ownOutcomes, List.map_singleton,
    Nat.min_eq_left hstart, search_emptyPattern text hstart]
  rfl

theorem beginsFrom_emptyPattern {text : ByteArray} {start : Nat} (hstart : start ≤ text.size)
    (hsmall : text.size < UInt64.size) :
    BeginsFrom [""] { engine := .standard } text start := by
  intro source hsource p hp reg hreg
  obtain rfl := List.mem_singleton.mp hsource
  obtain rfl : emptyPattern = p := Except.ok.inj (compile_emptyPattern.symm.trans hp)
  rw [search_emptyPattern text hstart, Except.ok.injEq, Option.some.injEq] at hreg
  subst hreg
  exact Nat.le_of_eq (UInt64.toNat_ofNat_of_lt' (Nat.lt_of_le_of_lt hstart hsmall)).symm

/-- Its match lies where the start goes to in bytes. -/
theorem findNextUnits_emptyScanner {units : Array Unit16}
    (hsmall : (IndexedText.ofUnits units).bytes.size ≤ UInt32.size) (start : Nat) :
    ∃ m o, (emptyScanner.findNextUnits (.ofUnits units) start).value = .ok (.ok (some m)) ∧
      m.begin? = some o ∧ o.toNat =
        (IndexedText.ofUnits units).unitOffset ((IndexedText.ofUnits units).byteOffset start) := by
  have hlo := (IndexedText.laidOut_ofUnits units).byteOffset_le hsmall start
  have hfound := findBest_emptyScanner (IndexedText.ofUnits units).bytes hlo
  have hstart : byteStart (.ofUnits units) start =
      (IndexedText.ofUnits units).byteOffset start := by
    rw [byteStart, Int.toNat_natCast]
  generalize (IndexedText.ofUnits units).byteOffset start = lo at hlo hfound hstart ⊢
  have hlt : lo < unsetOffset.toNat := Nat.lt_of_le_of_lt (Nat.le_trans hlo hsmall) (by decide)
  have hword : lo.toUInt64.toNat = lo :=
    UInt64.toNat_ofNat_of_lt' (Nat.lt_trans hlt (by decide))
  have hset : lo.toUInt64 ≠ unsetOffset := fun he => by
    rw [← he, hword] at hlt
    exact Nat.lt_irrefl _ hlt
  have hu := toNat_unitOf hsmall lo.toUInt64
  rw [hword] at hu
  -- An empty match has the length 0.
  have hcapture : ScanMatch.captureOf (unitOf (.ofUnits units)) 0 (lo.toUInt64, lo.toUInt64) =
      .ok ⟨0, unitOf (.ofUnits units) lo.toUInt64, unitOf (.ofUnits units) lo.toUInt64, 0⟩ := by
    rw [ScanMatch.captureOf_of_set hset, Capture.ofBounds_of_le 0 (UInt64.le_refl _),
      UInt64.sub_self]
  have hcaptures := ScanMatch.capturesFrom_cons_eq_ok_iff.mpr
    ⟨_, [], hcapture, (rfl : ScanMatch.capturesFrom _ 1 [] = .ok []), rfl⟩
  generalize unitOf (.ofUnits units) lo.toUInt64 = u at hu hcaptures
  have hflat : ScanMatch.ofFlat? ⟨0, #[lo.toUInt64, lo.toUInt64]⟩ (unitOf (.ofUnits units)) =
      .ok (some ⟨0, [⟨0, u, u, 0⟩]⟩) := ScanMatch.ofFlat?_eq_some_iff.mpr ⟨rfl, rfl, hcaptures⟩
  refine ⟨⟨0, [⟨0, u, u, 0⟩]⟩, u, ?_, rfl, hu⟩
  rw [value_findNextUnits, hstart, hfound, Except.map, hflat]

/-- Matches of all scanners whose patterns find nothing before the place that they search from begin
at or behind the start exactly if it does not split a pair. -/
theorem start_le_begin?_iff {units : Array Unit16}
    (hsmall : (IndexedText.ofUnits units).bytes.size ≤ UInt32.size) {start : Nat}
    (hstart : start ≤ units.size) :
    (∀ sources s sc, (ofPatterns sources s).value = .ok sc →
      BeginsFrom sources s (IndexedText.ofUnits units).bytes
        ((IndexedText.ofUnits units).byteOffset start) →
      ∀ m, (sc.findNextUnits (.ofUnits units) start).value = .ok (.ok (some m)) →
        ∃ o, m.begin? = some o ∧ start ≤ o.toNat) ↔
    Unit16.splitsPair units.toList start = false := by
  constructor
  · intro h
    by_contra hsplit
    have hpair : Unit16.splitsPair units.toList start = true := by simpa using hsplit
    have hback := IndexedText.unitOffset_byteOffset hsmall hstart
    rw [hpair, if_pos rfl] at hback
    have hpos := Unit16.pos_of_splitsPair hpair
    have hlo := (IndexedText.laidOut_ofUnits units).byteOffset_le hsmall start
    have hengine := beginsFrom_emptyPattern hlo (Nat.lt_of_le_of_lt hsmall (by decide))
    obtain ⟨m, o, hm, hbegin, ho⟩ := findNextUnits_emptyScanner hsmall start
    obtain ⟨o', hbegin', hle⟩ := h [""] { engine := .standard } emptyScanner
      ofPatterns_emptyPattern hengine m hm
    obtain rfl : o' = o := by simpa using hbegin'.symm.trans hbegin
    omega
  · intro hsplit sources s sc hsc hengine m hm
    obtain ⟨o, hbegin, hle | ⟨htrue, -⟩⟩ :=
      exists_begin?_of_findNextUnits hsmall hstart hsc hengine hm
    · exact ⟨o, hbegin, hle⟩
    · rw [hsplit] at htrue
      cases htrue

/-- A start right behind a pair. -/
theorem start_le_begin?_behind_pair :
    ((IndexedText.ofUnits #[0x61, 0xd83d, 0xdcbb, 0x62]).bytes.size ≤ UInt32.size ∧
      3 ≤ (#[0x61, 0xd83d, 0xdcbb, 0x62] : Array Unit16).size) ∧
    ((∀ sources s sc, (ofPatterns sources s).value = .ok sc →
      BeginsFrom sources s (IndexedText.ofUnits #[0x61, 0xd83d, 0xdcbb, 0x62]).bytes
        ((IndexedText.ofUnits #[0x61, 0xd83d, 0xdcbb, 0x62]).byteOffset 3) →
      ∀ m, (sc.findNextUnits (.ofUnits #[0x61, 0xd83d, 0xdcbb, 0x62]) (3 : Nat)).value =
          .ok (.ok (some m)) → ∃ o, m.begin? = some o ∧ 3 ≤ o.toNat) ↔
      Unit16.splitsPair [0x61, 0xd83d, 0xdcbb, 0x62] 3 = false) :=
  ⟨⟨by decide, by decide⟩, start_le_begin?_iff (by decide) (by decide)⟩

/-- A pair searched for from its second unit on is found, one unit before. -/
theorem begins_before_start_in_pair : ∃ sc m o, (ofPatterns ["💻"] {}).value = .ok sc ∧
    BeginsFrom ["💻"] {} (IndexedText.ofUnits #[0xd83d, 0xdcbb]).bytes
      ((IndexedText.ofUnits #[0xd83d, 0xdcbb]).byteOffset 1) ∧
    (sc.findNextUnits (.ofUnits #[0xd83d, 0xdcbb]) (1 : Nat)).value = .ok (.ok (some m)) ∧
    m.begin? = some o ∧ o.toNat < 1 := by
  have hfound : ((ofPatterns ["💻"] {}).value.toOption.bind fun sc =>
      found? (sc.findNextUnits (.ofUnits #[0xd83d, 0xdcbb]) (1 : Nat)).value).bind
        ScanMatch.begin? = some 0 := by decide +kernel
  obtain ⟨m, hm, hbegin⟩ := Option.bind_eq_some_iff.mp hfound
  obtain ⟨sc, hsc, hm⟩ := Option.bind_eq_some_iff.mp hm
  exact ⟨sc, m, 0, eq_ok_of_toOption hsc, fun _ _ _ _ _ _ => Nat.zero_le _, eq_of_found hm,
    hbegin, by decide⟩

end Scanner

end Leftmost
