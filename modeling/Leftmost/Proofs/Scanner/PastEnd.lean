import Leftmost.Proofs.Scanner.Start

/-!
# Leftmost.Proofs.Scanner.PastEnd

A search in units from a start beyond the end of the text.  The start is moved to the end, where a
pattern may still match: one that matches nothing at all, or only at the end of a text.

* `byteStart_of_size_le` — in bytes, all starts from the end on are the end;
* `findNextUnits_eq_none_iff` — there is no match exactly if no pattern of the scanner matches there;
* `head?_captures_of_size_le` — a match there is empty;
* `findNextUnits_of_size_lt` — so a start beyond the end is answered as the end is.
-/

namespace Leftmost

/-- What a pattern finds at the very end of a text. -/
def Compiled.searchEnd (p : Compiled) (text : ByteArray) : Except SearchFailure (Option Region) :=
  p.search text text.size text.size

/-- In a search from a place to the end of a text, a match lies between the two. -/
def Compiled.StaysBehind (p : Compiled) (text : ByteArray) (start : Nat) : Prop :=
  ∀ r, p.search text start text.size = .ok (some r) → r.isSet 0 = true ∧
    start ≤ (r.first 0).toNat ∧ r.first 0 ≤ r.last 0 ∧ (r.last 0).toNat ≤ text.size

namespace Scanner

open Registry Selection

/-! ## The end of a text -/

theorem byteStart_of_size_le {t : IndexedText} {start : Int} (h : (t.size : Int) ≤ start) :
    byteStart t start = t.bytes.size := by
  have hle : t.units.size ≤ start.toNat := by
    simp only [IndexedText.size] at h
    omega
  rw [byteStart, IndexedText.byteOffset, if_pos hle]

/-- The end in bytes is the end in units. -/
theorem unitOf_of_toNat_eq {t : IndexedText} {o : Offset} (h : o.toNat = t.bytes.size) :
    unitOf t o = t.size.toUInt64 := by
  rw [unitOf, IndexedText.unitOffset, if_pos (Nat.le_of_eq h.symm)]
  rfl

/-! ## Starts beyond the end -/

/-- What is answered to a start beyond the end of a text. -/
structure AnswersPastEnd (sources : List String) (s : Settings) (e : Engines) (t : IndexedText)
    (answer : Except ScanError (Except Overflow (Option ScanMatch))) : Prop where
  /-- If no search fails, no match is reported exactly if no pattern matches at the end. -/
  missed : (∀ source ∈ sources, ∀ p, (Compiler.ofSettings s e).compile source = .ok p →
      ∀ f, p.searchEnd t.bytes ≠ .error f) →
    ∃ found, answer = .ok found ∧ (found = .ok none ↔
      ∀ source ∈ sources, ∀ p, (Compiler.ofSettings s e).compile source = .ok p →
        p.searchEnd t.bytes = .ok none)
  /-- A match that is reported is empty, and lies at the end. -/
  empty : (∀ source ∈ sources, ∀ p, (Compiler.ofSettings s e).compile source = .ok p →
      p.StaysBehind t.bytes t.bytes.size) →
    ∀ m, answer = .ok (.ok (some m)) → m.captures.head? =
      some { index := 0, start := t.size.toUInt64, stop := t.size.toUInt64, length := 0 }
  /-- The program stops only at a group, found at the end, that ends before it begins. -/
  stopped : ∀ o, answer = .ok (.error o) →
    ∃ source ∈ sources, ∃ p r, (Compiler.ofSettings s e).compile source = .ok p ∧
      p.searchEnd t.bytes = .ok (some r) ∧
      ∃ g, r.isSet g = true ∧ unitOf t (r.last g) < unitOf t (r.first g)

theorem getElem?_ownOutcomes_of_size_le {t : IndexedText} {start : Int}
    (h : (t.size : Int) ≤ start) {ps : List Compiled} {i : Nat} {o : Outcome} :
    (ownOutcomes ps t.bytes (byteStart t start))[i]? = some o ↔
      ∃ p, ps[i]? = some p ∧ p.searchEnd t.bytes = o := by
  rw [byteStart_of_size_le h, getElem?_ownOutcomes, Nat.min_self]
  rfl

/-- If no pattern fails at the end, there is no match exactly if none of them matches there. -/
theorem findNextUnits_eq_none_iff {sources : List String} {s : Settings} {e : Engines}
    {sc : Scanner} (hsc : (ofPatterns sources s e).value = .ok sc) {t : IndexedText} {start : Int}
    (hstart : (t.size : Int) ≤ start) (hno : ∀ source ∈ sources, ∀ p,
      (Compiler.ofSettings s e).compile source = .ok p → ∀ f, p.searchEnd t.bytes ≠ .error f) :
    ∃ found, (sc.findNextUnits t start).value = .ok found ∧ (found = .ok none ↔
      ∀ source ∈ sources, ∀ p, (Compiler.ofSettings s e).compile source = .ok p →
        p.searchEnd t.bytes = .ok none) := by
  obtain ⟨ps, hps, hres⟩ := exists_resolves_of_ofPatterns hsc
  rw [hps.forall_iff] at hno ⊢
  have hfound := found_of_isMade hps.isMade t.bytes (byteStart t start)
  rw [← value_findBest (getAll_of_resolves hres)] at hfound
  have hnone : ∀ i f, ¬IsFailure (ownOutcomes ps t.bytes (byteStart t start)) i f := by
    intro i f hf
    obtain ⟨p, hp, he⟩ := (getElem?_ownOutcomes_of_size_le hstart).mp hf
    exact hno p (List.mem_of_getElem? hp) f he
  obtain ⟨m, hm, hmatch⟩ := hfound.exists_isMatch_iff hnone
  refine ⟨ScanMatch.ofFlat? m (unitOf t), by rw [value_findNextUnits, findBest, hm]; rfl, ?_⟩
  rw [ScanMatch.ofFlat?_eq_none_iff, ← Bool.not_eq_true, hmatch]
  constructor
  · intro hmiss p hp
    obtain ⟨i, hi⟩ := List.getElem?_of_mem hp
    cases hp' : p.searchEnd t.bytes with
    | error f => exact absurd hp' (hno p hp f)
    | ok o =>
        cases o with
        | none => rfl
        | some r =>
            have hir := (getElem?_ownOutcomes_of_size_le hstart).mpr ⟨p, hi, hp'⟩
            exact absurd ⟨i, r, hir⟩ hmiss
  · rintro hall ⟨i, r, hr⟩
    obtain ⟨p, hp, hsome⟩ := (getElem?_ownOutcomes_of_size_le hstart).mp hr
    cases (hall p (List.mem_of_getElem? hp)).symm.trans hsome

/-- A match at the end is empty. -/
theorem head?_captures_of_size_le {sources : List String} {s : Settings} {e : Engines}
    {sc : Scanner} (hsc : (ofPatterns sources s e).value = .ok sc) {t : IndexedText} {start : Int}
    (hstart : (t.size : Int) ≤ start) (hengine : ∀ source ∈ sources, ∀ p,
      (Compiler.ofSettings s e).compile source = .ok p → p.StaysBehind t.bytes t.bytes.size)
    {m : ScanMatch} (hm : (sc.findNextUnits t start).value = .ok (.ok (some m))) :
    m.captures.head? =
      some { index := 0, start := t.size.toUInt64, stop := t.size.toUInt64, length := 0 } := by
  obtain ⟨source, hsource, p, reg, c, hcompiled, hsearch, hhead, hcapture⟩ :=
    exists_head?_of_findNextUnits hsc hm
  rw [byteStart_of_size_le hstart, Nat.min_self] at hsearch
  obtain ⟨hset, hfirst, hle, hlast⟩ := hengine source hsource p hcompiled reg hsearch
  rw [UInt64.le_iff_toNat_le] at hle
  have hunset : reg.first 0 ≠ unsetOffset := bne_iff_ne.mp hset
  have hstart : unitOf t (reg.first 0) = t.size.toUInt64 :=
    unitOf_of_toNat_eq (Nat.le_antisymm (Nat.le_trans hle hlast) hfirst)
  have hstop : unitOf t (reg.last 0) = t.size.toUInt64 :=
    unitOf_of_toNat_eq (Nat.le_antisymm hlast (Nat.le_trans hfirst hle))
  rw [ScanMatch.captureOf_of_set (b := (reg.first 0, reg.last 0)) hunset, hstart, hstop,
    Capture.ofBounds_of_le 0 (UInt64.le_refl _), UInt64.sub_self, Except.ok.injEq] at hcapture
  rw [hhead, hcapture]

/-- At the end the program stops only at a group that ends before it begins. -/
theorem exists_group_of_size_le {sources : List String} {s : Settings} {e : Engines}
    {sc : Scanner} (hsc : (ofPatterns sources s e).value = .ok sc) {t : IndexedText} {start : Int}
    (hstart : (t.size : Int) ≤ start) {o : Overflow}
    (ho : (sc.findNextUnits t start).value = .ok (.error o)) :
    ∃ source ∈ sources, ∃ p r, (Compiler.ofSettings s e).compile source = .ok p ∧
      p.searchEnd t.bytes = .ok (some r) ∧
      ∃ g, r.isSet g = true ∧ unitOf t (r.last g) < unitOf t (r.first g) := by
  obtain ⟨index, k, p, r, hk, hp, hsearch, hflat⟩ := exists_winner_of_ofFlat ho (by simp)
  obtain ⟨source, hsource, hcompiled⟩ := compile_of_mem_handles hsc (List.mem_of_getElem? hk) hp
  rw [byteStart_of_size_le hstart, Nat.min_self] at hsearch
  exact ⟨source, hsource, p, r, hcompiled, hsearch,
    ScanMatch.exists_group_of_ofFlat_eq_error hflat⟩

/-- From a start beyond the end a scanner answers as from the end. -/
theorem findNextUnits_of_size_lt {sources : List String} {s : Settings} {e : Engines}
    {sc : Scanner} (hsc : (ofPatterns sources s e).value = .ok sc) (t : IndexedText) {start : Int}
    (hstart : (t.size : Int) < start) :
    sc.findNextUnits t start = sc.findNextUnits t t.size ∧
      AnswersPastEnd sources s e t (sc.findNextUnits t start).value := by
  have hle := Int.le_of_lt hstart
  refine ⟨?_, ?_, ?_, ?_⟩
  · rw [findNextUnits, findNextUnits, byteStart_of_size_le hle,
      byteStart_of_size_le (Int.le_refl _)]
  · exact findNextUnits_eq_none_iff hsc hle
  · exact fun hengine m => head?_captures_of_size_le hsc hle hengine
  · exact fun o => exists_group_of_size_le hsc hle

/-- At the end of a pair the one pattern finds nothing, the other an empty match. -/
theorem searchEnd_pair : ∀ source ∈ ["x", "$"], ∀ p,
    (Compiler.ofSettings {}).compile source = .ok p →
      p.searchEnd (IndexedText.ofUnits #[0xd83d, 0xdcbb]).bytes =
        .ok (if source = "x" then none else some ⟨#[(4, 4)]⟩) := by
  have hall : ∀ source ∈ ["x", "$"], ((Compiler.ofSettings {}).compile source).toOption.bind
      (fun p => (p.searchEnd (IndexedText.ofUnits #[0xd83d, 0xdcbb]).bytes).toOption) =
        some (if source = "x" then none else some ⟨#[(4, 4)]⟩) := by decide +kernel
  intro source hsource p hp
  have h := hall source hsource
  rw [hp] at h
  exact eq_ok_of_toOption h

theorem eq_of_searchEnd_pair {source : String} (hsource : source ∈ ["x", "$"]) {p : Compiled}
    (hp : (Compiler.ofSettings {}).compile source = .ok p) {r : Region}
    (hr : p.searchEnd (IndexedText.ofUnits #[0xd83d, 0xdcbb]).bytes = .ok (some r)) :
    r = ⟨#[(4, 4)]⟩ := by
  have h := Except.ok.inj ((searchEnd_pair source hsource p hp).symm.trans hr)
  split at h
  · cases h
  · exact (Option.some.inj h).symm

/-- From beyond the end of a pair. -/
theorem findNextUnits_behind_pair : ∃ sc, (ofPatterns ["x", "$"] {}).value = .ok sc ∧
    ((IndexedText.ofUnits #[0xd83d, 0xdcbb]).size : Int) < 9 ∧
    (sc.findNextUnits (.ofUnits #[0xd83d, 0xdcbb]) 9 =
        sc.findNextUnits (.ofUnits #[0xd83d, 0xdcbb]) (IndexedText.ofUnits #[0xd83d, 0xdcbb]).size ∧
      AnswersPastEnd ["x", "$"] {} .builtIn (.ofUnits #[0xd83d, 0xdcbb])
        (sc.findNextUnits (.ofUnits #[0xd83d, 0xdcbb]) 9).value) ∧
    ∃ m, (sc.findNextUnits (.ofUnits #[0xd83d, 0xdcbb]) 9).value = .ok (.ok (some m)) ∧
      m.captures.head? = some { index := 0, start := 2, stop := 2, length := 0 } := by
  have hmade : (ofPatterns ["x", "$"] {}).value.toOption.isSome = true := by decide +kernel
  obtain ⟨sc, hsc⟩ := Option.isSome_iff_exists.mp hmade
  have hlt : ((IndexedText.ofUnits #[0xd83d, 0xdcbb]).size : Int) < 9 := by decide
  have hanswer := findNextUnits_of_size_lt (eq_ok_of_toOption hsc) _ hlt
  refine ⟨sc, eq_ok_of_toOption hsc, hlt, hanswer, ?_⟩
  obtain ⟨found, hfound, hiff⟩ := hanswer.2.missed fun source hsource p hp f hf => by
    cases (searchEnd_pair source hsource p hp).symm.trans hf
  have hengine : ∀ source ∈ ["x", "$"], ∀ p, (Compiler.ofSettings {}).compile source = .ok p →
      p.StaysBehind (IndexedText.ofUnits #[0xd83d, 0xdcbb]).bytes
        (IndexedText.ofUnits #[0xd83d, 0xdcbb]).bytes.size := by
    intro source hsource p hp r hr
    obtain rfl := eq_of_searchEnd_pair hsource hp hr
    decide
  rcases hsome : found with o | _ | m
  · -- Neither pattern reports a group that ends before it begins.
    obtain ⟨source, hsource, p, r, hp, hr, g, -, hlt⟩ := hanswer.2.stopped o (hsome ▸ hfound)
    obtain rfl := eq_of_searchEnd_pair hsource hp hr
    have hsame : (⟨#[(4, 4)]⟩ : Region).last g = (⟨#[(4, 4)]⟩ : Region).first g := by
      cases g <;> rfl
    rw [hsame] at hlt
    exact absurd hlt (UInt64.lt_irrefl _)
  · have hmade : ((Compiler.ofSettings {}).compile "$").toOption.isSome = true := by
      decide +kernel
    obtain ⟨p, hp⟩ := Option.isSome_iff_exists.mp hmade
    have hnone := hiff.mp hsome "$" (by simp) p (eq_ok_of_toOption hp)
    cases (searchEnd_pair "$" (by simp) p (eq_ok_of_toOption hp)).symm.trans hnone
  · exact ⟨m, hsome ▸ hfound, hanswer.2.empty hengine m (hsome ▸ hfound)⟩

/-- A pattern that matches at the end of a text is found from beyond it. -/
theorem found_from_beyond : ∃ sc m, (ofPatterns ["$"] {}).value = .ok sc ∧
    ((IndexedText.ofUnits #[0x61]).size : Int) < 5 ∧
    (sc.findNextUnits (.ofUnits #[0x61]) 5).value = .ok (.ok (some m)) := by
  have hfound : ((ofPatterns ["$"] {}).value.toOption.bind fun sc =>
      found? (sc.findNextUnits (.ofUnits #[0x61]) 5).value).isSome = true := by decide +kernel
  obtain ⟨m, hm⟩ := Option.isSome_iff_exists.mp hfound
  obtain ⟨sc, hsc, hm⟩ := Option.bind_eq_some_iff.mp hm
  exact ⟨sc, m, eq_ok_of_toOption hsc, by decide, eq_of_found hm⟩

end Scanner

end Leftmost
