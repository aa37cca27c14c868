import Leftmost.Proofs.Json.Nested
import Leftmost.Proofs.Json.Written
import Leftmost.Proofs.Settings.Checked

/-!
# Leftmost.Proofs.Settings.Given

Settings from an object.  Each known field that is there overrides its default; in which order the
fields come, and what stands in fields that are not known, makes no difference:

* `Setting` — a known field with what it says, and how it is written;
* `Proper` — the objects that are settings: known fields at most once each, of their types;
* `Overrides` — settings that say what the fields say, and what was there before otherwise;
* `overrides_setFields?` — such are the settings that reading ends with;
* `overrides_unique` — there are no others;
* `setFields?_of_repeated` — a known field that is repeated is refused;
* `readsFields_of_spells` — what comes of reading a text that spells an object.
-/

namespace Leftmost

namespace Settings

/-! ## Reading a text -/

/-- What has to come of reading a text that stands for settings: a limit that is 0 is refused. -/
structure ReadAs (text : String) (s : Settings) : Prop where
  accepted : ¬s.HasZeroLimit → read text = .ok s
  refused : s.HasZeroLimit →
    ∃ message, s.validate = .error message ∧ read text = .error (.invalid message)

theorem readAs_of_spells {v : Json} {text : String} {s : Settings} (h : v.Spells text)
    (hs : ofJson? v = some s) : ReadAs text s := by
  have hread : (Json.ofText? text).bind ofJson? = some s := by
    rw [h.ofText?_eq, Option.bind_some, hs]
  obtain ⟨hzero, message, hmessage⟩ | ⟨hzero, hok⟩ := s.validate_spec
  · refine ⟨fun h => absurd hzero h, fun _ => ⟨message, hmessage, ?_⟩⟩
    simp only [read, hread, hmessage]
  · exact ⟨fun _ => by simp only [read, hread, hok], fun h => absurd h hzero⟩

/-- Texts that stand for the same settings are read alike. -/
theorem ReadAs.read_eq {text other : String} {s : Settings} (h : ReadAs text s)
    (hother : ReadAs other s) : read other = read text := by
  by_cases hzero : s.HasZeroLimit
  · obtain ⟨message, hmessage, hread⟩ := h.refused hzero
    obtain ⟨message', hmessage', hread'⟩ := hother.refused hzero
    obtain rfl : message = message' := Except.error.inj (hmessage.symm.trans hmessage')
    rw [hread, hread']
  · rw [h.accepted hzero, hother.accepted hzero]

/-! ## Known fields -/

/-- A known field with what it says. -/
inductive Setting where
  | engine (e : Engine)
  | backtrackLimit (n : UInt64)
  | sizeLimit (n : UInt64)
  | logLevel (t : String)

namespace Setting

def name : Setting → String
  | engine _ => "engine"
  | backtrackLimit _ => "backtrack_limit"
  | sizeLimit _ => "size_limit"
  | logLevel _ => "log_level"

/-- The values that a setting is written as. -/
inductive Spelt : Setting → Json → Prop where
  | engine (e : Engine) : Spelt (.engine e) (.string (some e.name))
  | engineObject (e : Engine) : Spelt (.engine e) (.object [(some e.name, .null)])
  | backtrackLimit (n : UInt64) : Spelt (.backtrackLimit n) (.number (some n.toNat))
  | sizeLimit (n : UInt64) : Spelt (.sizeLimit n) (.number (some n.toNat))
  | logLevel (t : String) : Spelt (.logLevel t) (.string (some t))

/-- Settings have a setting if they say the same. -/
def Holds : Setting → Settings → Prop
  | engine e, s => s.engine = e
  | backtrackLimit n, s => s.backtrackLimit = n
  | sizeLimit n, s => s.sizeLimit = n
  | logLevel t, s => s.logLevel = t

def applyTo : Setting → Settings → Settings
  | engine e, s => { s with engine := e }
  | backtrackLimit n, s => { s with backtrackLimit := n }
  | sizeLimit n, s => { s with sizeLimit := n }
  | logLevel t, s => { s with logLevel := t }

/-- One of the fields is a setting. -/
def IsIn (x : Setting) (fields : List (Option String × Json)) : Prop :=
  ∃ v, (some x.name, v) ∈ fields ∧ x.Spelt v

theorem name_mem (x : Setting) : x.name ∈ fieldNames := by cases x <;> simp [name, fieldNames]

theorem holds_applyTo (x : Setting) (s : Settings) : x.Holds (x.applyTo s) := by cases x <;> rfl

/-- A setting leaves those of other names alone. -/
theorem Holds.applyTo {x y : Setting} {s : Settings} (h : y.Holds s) (hname : y.name ≠ x.name) :
    y.Holds (x.applyTo s) := by
  cases x <;> cases y <;> first | exact h | exact absurd rfl hname

/-- Settings say one thing for each name. -/
theorem Holds.eq {x y : Setting} {s : Settings} (hx : x.Holds s) (hy : y.Holds s)
    (hname : x.name = y.name) : x = y := by
  cases x <;> cases y <;> first | cases hx; cases hy; rfl | simp [name] at hname

/-- Settings say something for each name. -/
theorem exists_holds (x : Setting) (s : Settings) : ∃ y : Setting, y.name = x.name ∧ y.Holds s := by
  cases x with
  | engine => exact ⟨.engine s.engine, rfl, rfl⟩
  | backtrackLimit => exact ⟨.backtrackLimit s.backtrackLimit, rfl, rfl⟩
  | sizeLimit => exact ⟨.sizeLimit s.sizeLimit, rfl, rfl⟩
  | logLevel => exact ⟨.logLevel s.logLevel, rfl, rfl⟩

/-- Settings are all that they say. -/
theorem eq_of_holds {s t : Settings} (h : ∀ x : Setting, x.Holds s → x.Holds t) : s = t := by
  have hengine : t.engine = s.engine := h (.engine s.engine) rfl
  have hback : t.backtrackLimit = s.backtrackLimit := h (.backtrackLimit s.backtrackLimit) rfl
  have hsize : t.sizeLimit = s.sizeLimit := h (.sizeLimit s.sizeLimit) rfl
  have hlevel : t.logLevel = s.logLevel := h (.logLevel s.logLevel) rfl
  cases s
  cases t
  simp_all

end Setting

/-- A setting is set from what it is written as. -/
theorem setField?_spelt {x : Setting} {v : Json} (h : x.Spelt v) (s : Settings) :
    s.setField? x.name v = some (x.applyTo s) := by
  have hlimit (n : UInt64) : limitOf? (.number (some n.toNat)) = some n := by
    rw [limitOf?, if_pos n.toNat_lt, UInt64.ofNat_toNat]
  cases h with
  | engine e | engineObject e =>
    simp [Setting.name, setField?, engineOf?, Engine.ofName?_name, Setting.applyTo]
  | backtrackLimit n | sizeLimit n => simp [Setting.name, setField?, hlimit, Setting.applyTo]
  | logLevel t => rfl

/-- A field that is not known sets nothing. -/
theorem setField?_other {name : String} (h : name ∉ fieldNames) (s : Settings) (v : Json) :
    s.setField? name v = some s := by
  simp only [fieldNames, List.mem_cons, List.not_mem_nil, or_false, not_or] at h
  unfold setField?
  split
  · exact absurd rfl h.1
  · exact absurd rfl h.2.1
  · exact absurd rfl h.2.2.1
  · exact absurd rfl h.2.2.2
  · rfl

/-! ## Objects -/

/-- Fields of settings. Every name is a text; a known one comes at most once, with a value of its
type, and a field of another name may hold anything. -/
structure Proper (fields : List (Option String × Json)) : Prop where
  named : ∀ f ∈ fields, f.1 ≠ none
  typed : ∀ name ∈ fieldNames, ∀ v, (some name, v) ∈ fields →
    ∃ x : Setting, x.name = name ∧ x.Spelt v
  once : ∀ name ∈ fieldNames, (fields.map Prod.fst).count (some name) ≤ 1

theorem Proper.tail {f : Option String × Json} {fields : List (Option String × Json)}
    (h : Proper (f :: fields)) : Proper fields where
  named g hg := h.named g (List.mem_cons_of_mem _ hg)
  typed name hname v hv := h.typed name hname v (List.mem_cons_of_mem _ hv)
  once name hname := by
    have hcount := h.once name hname
    rw [List.map_cons] at hcount
    exact List.count_le_count_cons.trans hcount

/-- A known name in front does not come again. -/
theorem Proper.not_mem_tail {name : String} {v : Json} {fields : List (Option String × Json)}
    (h : Proper ((some name, v) :: fields)) (hname : name ∈ fieldNames) :
    some name ∉ fields.map Prod.fst := by
  have hcount := h.once name hname
  rw [List.map_cons, List.count_cons_self] at hcount
  exact List.count_eq_zero.mp (by omega)

/-- A known name that is there is that of a setting. -/
theorem Proper.exists_isIn {fields : List (Option String × Json)} (h : Proper fields) {y : Setting}
    (hy : some y.name ∈ fields.map Prod.fst) : ∃ x : Setting, x.name = y.name ∧ x.IsIn fields := by
  obtain ⟨⟨name, v⟩, hv, rfl⟩ := List.mem_map.mp hy
  obtain ⟨x, hx, hspelt⟩ := h.typed y.name y.name_mem v hv
  exact ⟨x, hx, v, hx ▸ hv, hspelt⟩

theorem Setting.IsIn.mem {x : Setting} {fields : List (Option String × Json)} (h : x.IsIn fields) :
    some x.name ∈ fields.map Prod.fst := by
  obtain ⟨v, hv, -⟩ := h
  exact List.mem_map_of_mem hv

/-- Settings that say what fields say, and what other ones said otherwise. -/
structure Overrides (before : Settings) (fields : List (Option String × Json)) (s : Settings) :
    Prop where
  given : ∀ x : Setting, x.IsIn fields → x.Holds s
  kept : ∀ x : Setting, some x.name ∉ fields.map Prod.fst → x.Holds before → x.Holds s

/-- Fields override settings in one way only. -/
theorem overrides_unique {before s t : Settings} {fields : List (Option String × Json)}
    (h : Proper fields) (hs : Overrides before fields s) (ht : Overrides before fields t) :
    s = t := by
  refine Setting.eq_of_holds fun y hy => ?_
  by_cases hmem : some y.name ∈ fields.map Prod.fst
  · obtain ⟨x, hname, hx⟩ := h.exists_isIn hmem
    obtain rfl : x = y := (hs.given x hx).eq hy hname
    exact ht.given x hx
  · obtain ⟨x, hname, hx⟩ := y.exists_holds before
    rw [← hname] at hmem
    obtain rfl : x = y := (hs.kept x hmem hx).eq hy hname
    exact ht.kept x hmem hx

/-- Fields that say the same override settings alike. -/
theorem Overrides.congr {before s : Settings} {fields others : List (Option String × Json)}
    (h : Overrides before others s) (hothers : Proper others)
    (hsame : ∀ x : Setting, x.IsIn others ↔ x.IsIn fields) : Overrides before fields s where
  given x hx := h.given x ((hsame x).mpr hx)
  kept x hx hbefore := by
    refine h.kept x (fun hmem => hx ?_) hbefore
    obtain ⟨y, hname, hy⟩ := hothers.exists_isIn hmem
    rw [← hname]
    exact ((hsame y).mp hy).mem

theorem Overrides.nil (before : Settings) : Overrides before [] before where
  given := by
    rintro x ⟨v, hv, -⟩
    cases hv
  kept _ _ hx := hx

/-- A known field in front is overridden by nothing behind it. -/
theorem Overrides.cons {x : Setting} {v : Json} {before s : Settings}
    {fields : List (Option String × Json)} (hx : x.Spelt v)
    (hfresh : some x.name ∉ fields.map Prod.fst) (h : Overrides (x.applyTo before) fields s) :
    Overrides before ((some x.name, v) :: fields) s where
  given y hy := by
    obtain ⟨w, hw, hspelt⟩ := hy
    rcases List.mem_cons.mp hw with hfirst | hrest
    · obtain ⟨hname, rfl⟩ := Prod.mk.inj hfirst
      -- One value says one thing, since it is read as one.
      have hsame : y.applyTo before = x.applyTo before := by
        have hset := setField?_spelt hspelt before
        rw [Option.some.inj hname, setField?_spelt hx] at hset
        exact (Option.some.inj hset).symm
      refine h.kept y (hname ▸ hfresh) ?_
      rw [← hsame]
      exact y.holds_applyTo before
    · exact h.given y ⟨w, hrest, hspelt⟩
  kept y hy hbefore := by
    rw [List.map_cons, List.mem_cons, not_or] at hy
    exact h.kept y hy.2 (hbefore.applyTo fun hname => hy.1 (congrArg some hname))

/-- A field in front that is not known says nothing. -/
theorem Overrides.cons_other {name : String} (hname : name ∉ fieldNames) {v : Json}
    {before s : Settings} {fields : List (Option String × Json)} (h : Overrides before fields s) :
    Overrides before ((some name, v) :: fields) s where
  given y hy := by
    obtain ⟨w, hw, hspelt⟩ := hy
    rcases List.mem_cons.mp hw with hfirst | hrest
    · exact absurd (Option.some.inj (Prod.mk.inj hfirst).1 ▸ y.name_mem) hname
    · exact h.given y ⟨w, hrest, hspelt⟩
  kept y hy hbefore := by
    rw [List.map_cons, List.mem_cons, not_or] at hy
    exact h.kept y hy.2 hbefore

/-! ## Setting fields -/

theorem setFields?_cons (seen : List String) (s : Settings) (name : String) (v : Json)
    (fields : List (Option String × Json)) :
    setFields? seen s ((some name, v) :: fields) =
      if name ∈ seen then none
      else (s.setField? name v).bind fun s =>
        setFields? (if name ∈ fieldNames then name :: seen else seen) s fields := by
  rw [setFields?]
  simp only [List.contains_iff_mem]
  split
  · rfl
  · cases s.setField? name v <;> rfl

/-- Proper fields are set, if none of them was seen before. -/
theorem overrides_setFields? {fields : List (Option String × Json)} (h : Proper fields)
    {seen : List String} (hseen : ∀ name ∈ seen, some name ∉ fields.map Prod.fst)
    (before : Settings) :
    ∃ s, setFields? seen before fields = some s ∧ Overrides before fields s := by
  -- On the fields: each known one that is passed joins `seen`, and by `once` it does not come again.
  induction fields generalizing seen before with
  | nil => exact ⟨before, rfl, .nil before⟩
  | cons f fields ih =>
      obtain ⟨_ | name, v⟩ := f
      · exact absurd rfl (h.named _ List.mem_cons_self)
      have hfresh : name ∉ seen := fun hmem => hseen name hmem List.mem_cons_self
      have hrest : ∀ name ∈ seen, some name ∉ fields.map Prod.fst := fun other hother hmem =>
        hseen other hother (List.mem_cons_of_mem _ hmem)
      rw [setFields?_cons, if_neg hfresh]
      by_cases hname : name ∈ fieldNames
      · obtain ⟨x, rfl, hx⟩ := h.typed name hname v List.mem_cons_self
        have hlater := h.not_mem_tail hname
        obtain ⟨s, hs, hover⟩ := ih h.tail (List.forall_mem_cons.mpr ⟨hlater, hrest⟩)
          (x.applyTo before)
        rw [if_pos hname, setField?_spelt hx, Option.bind_some]
        exact ⟨s, hs, .cons hx hlater hover⟩
      · obtain ⟨s, hs, hover⟩ := ih h.tail hrest before
        rw [if_neg hname, setField?_other hname, Option.bind_some]
        exact ⟨s, hs, .cons_other hname hover⟩

/-- A field that was seen before is refused. -/
theorem setFields?_of_seen {name : String} {seen : List String} (hseen : name ∈ seen) (s : Settings)
    {fields : List (Option String × Json)} (hmem : some name ∈ fields.map Prod.fst) :
    setFields? seen s fields = none := by
  induction fields generalizing seen s with
  | nil => cases hmem
  | cons f fields ih =>
      obtain ⟨_ | first, v⟩ := f
      · rfl
      rw [setFields?_cons]
      split
      · rfl
      · next hfirst =>
        have hne : name ≠ first := fun hname => hfirst (hname ▸ hseen)
        have hmem' : some name ∈ fields.map Prod.fst := by simpa [hne] using hmem
        rw [Option.bind_eq_none_iff]
        intro t _
        refine ih ?_ t hmem'
        split
        · exact List.mem_cons_of_mem _ hseen
        · exact hseen

/-- So is a known field that is there twice. -/
theorem setFields?_of_repeated {name : String} (hname : name ∈ fieldNames) (seen : List String)
    (s : Settings) {fields : List (Option String × Json)}
    (hcount : 2 ≤ (fields.map Prod.fst).count (some name)) : setFields? seen s fields = none := by
  induction fields generalizing seen s with
  | nil => cases hcount
  | cons f fields ih =>
      obtain ⟨_ | first, v⟩ := f
      · rfl
      rw [setFields?_cons]
      split
      · rfl
      rw [Option.bind_eq_none_iff]
      intro t _
      by_cases hfirst : first = name
      · subst hfirst
        rw [List.map_cons, List.count_cons_self] at hcount
        rw [if_pos hname]
        exact setFields?_of_seen List.mem_cons_self t (List.count_pos_iff.mp (by omega))
      · rw [List.map_cons, List.count_cons_of_ne (by simpa using hfirst)] at hcount
        exact ih _ t hcount

/-! ## Reading an object -/

/-- What has to come of reading a text that spells an object. -/
structure ReadsFields (fields : List (Option String × Json)) (text : String) : Prop where
  /-- The defaults, overridden by the fields that are there, are what the text is read as. -/
  overridden : Proper fields →
    ∃ s, Overrides {} fields s ∧ (∀ t, Overrides {} fields t → t = s) ∧ ReadAs text s
  /-- Every other text with the same settings in it is read alike: in whatever order, with whatever
  white space, and among whatever other fields. -/
  unaffected : Proper fields → ∀ others other, Proper others → Json.Spells (.object others) other →
    (∀ x : Setting, x.IsIn others ↔ x.IsIn fields) → read other = read text
  /-- A known field that is there more than once is refused. -/
  repeated : ∀ name ∈ fieldNames, 2 ≤ (fields.map Prod.fst).count (some name) →
    read text = .error .notSettings

/-- A text of proper fields is read as the defaults they override. -/
theorem exists_readAs {fields : List (Option String × Json)} {text : String} (h : Proper fields)
    (htext : Json.Spells (.object fields) text) : ∃ s, Overrides {} fields s ∧ ReadAs text s := by
  obtain ⟨s, hs, hover⟩ := overrides_setFields? h (List.forall_mem_nil _) {}
  exact ⟨s, hover, readAs_of_spells htext hs⟩

/-- An object is read as the defaults that its fields override. -/
theorem readsFields_of_spells {fields : List (Option String × Json)} {text : String}
    (htext : Json.Spells (.object fields) text) : ReadsFields fields text where
  overridden h := by
    obtain ⟨s, hover, hread⟩ := exists_readAs h htext
    exact ⟨s, hover, fun t ht => overrides_unique h ht hover, hread⟩
  unaffected h others other hothers hother hsame := by
    obtain ⟨s, hover, hread⟩ := exists_readAs h htext
    obtain ⟨t, hover', hread'⟩ := exists_readAs hothers hother
    obtain rfl : t = s := overrides_unique h (hover'.congr hothers hsame) hover
    exact hread.read_eq hread'
  repeated name hname hcount := by
    have hnone : (Json.ofText? text).bind ofJson? = none := by
      rw [htext.ofText?_eq, Option.bind_some]
      exact setFields?_of_repeated hname [] {} hcount
    simp only [read, hnone]

theorem readsFields_size_behind_unknown :
    Json.Spells (.object [(some "x", .array [.null]), (some "size_limit", .number (some 7))])
        " \x7b\"x\": [null], \"size_limit\": 7\x7d" ∧
      read " \x7b\"x\": [null], \"size_limit\": 7\x7d" = .ok { sizeLimit := 7 } := by
  have hspelt : Json.Spells
      (.object [(some "x", .array [.null]), (some "size_limit", .number (some 7))])
      " \x7b\"x\": [null], \"size_limit\": 7\x7d" := by
    have hblank : Json.IsBlank [' '] := by simp [Json.IsBlank, Json.isSpace]
    exact .cons hblank .openBrace (.tight (Json.spelt_writeString "x") (.tight .colon
      (.cons hblank .openBracket (.tight .nullWord (.tight .closeBracket (.tight .comma
      (.cons hblank (Json.spelt_writeString "size_limit") (.tight .colon
      (.cons hblank (Json.spelt_toDigits 7) (.tight .closeBrace (.nil Json.isBlank_nil)))))))))))
  have hproper : Proper [(some "x", .array [.null]), (some "size_limit", .number (some 7))] := by
    refine ⟨by simp, fun name hname v hv => ?_, by decide⟩
    rcases List.mem_cons.mp hv with hfirst | hlast
    · cases hfirst
      exact absurd hname (by decide)
    · cases List.mem_singleton.mp hlast
      exact ⟨.sizeLimit 7, rfl, .sizeLimit 7⟩
  obtain ⟨s, -, hunique, hread⟩ := (readsFields_of_spells hspelt).overridden hproper
  obtain rfl : { sizeLimit := 7 } = s := by
    refine hunique _ ⟨?_, ?_⟩
    · rintro x ⟨v, hv, hx⟩
      cases hx <;> simp [Setting.name] at hv
      exact (UInt64.toNat_inj.mp hv).symm
    · rintro x hname hx
      cases x with
      | sizeLimit => exact absurd (by simp [Setting.name]) hname
      | engine | backtrackLimit | logLevel => exact hx
  exact ⟨hspelt, hread.accepted (by simp [HasZeroLimit])⟩

end Settings

end Leftmost
