import Leftmost.Proofs.Settings.Given

/-!
# Leftmost.Proofs.Settings.Written

Settings that are written are read back. What is written is an object with all the known fields in
it, so that no default is left:

* `fields` — the fields that settings are written with;
* `setFields?_fields` — set over any others, they make the settings;
* `spells_toJson` — the text that is written spells them;
* `readAs_toJson` — so it is read as the settings it was written from.
-/

namespace Leftmost

namespace Settings

/-- The fields that settings are written with. -/
def fields (s : Settings) : List (Option String × Json) :=
  [(some "engine", .string (some s.engine.name)),
    (some "backtrack_limit", .number (some s.backtrackLimit.toNat)),
    (some "size_limit", .number (some s.sizeLimit.toNat)),
    (some "log_level", .string (some s.logLevel))]

/-- Nothing is left of the settings that the fields are set over. -/
theorem setFields?_fields (s before : Settings) : setFields? [] before s.fields = some s := by
  have hengine (t : Settings) := setField?_spelt (.engine s.engine) t
  have hback (t : Settings) := setField?_spelt (.backtrackLimit s.backtrackLimit) t
  have hsize (t : Settings) := setField?_spelt (.sizeLimit s.sizeLimit) t
  have hlevel (t : Settings) := setField?_spelt (.logLevel s.logLevel) t
  simp only [Setting.name, Setting.applyTo] at hengine hback hsize hlevel
  simp [fields, setFields?_cons, setFields?, hengine, hback, hsize, hlevel, fieldNames]

/-- What is written for settings spells their fields. -/
theorem spells_toJson (s : Settings) : Json.Spells (.object s.fields) s.toJson := by
  have htext : s.toJson.toList = ['\x7b'] ++ ((Json.writeString "engine").toList ++ ([':'] ++
      ((Json.writeString s.engine.name).toList ++ ([','] ++
      ((Json.writeString "backtrack_limit").toList ++ ([':'] ++
      (Nat.toDigits 10 s.backtrackLimit.toNat ++ ([','] ++
      ((Json.writeString "size_limit").toList ++ ([':'] ++
      (Nat.toDigits 10 s.sizeLimit.toNat ++ ([','] ++
      ((Json.writeString "log_level").toList ++ ([':'] ++
      ((Json.writeString s.logLevel).toList ++ (['\x7d'] ++ [])))))))))))))))) := by
    have hdigits (n : UInt64) : (toString n).toList = Nat.toDigits 10 n.toNat := Nat.toList_repr
    unfold toJson
    simp only [String.toList_append, List.append_assoc]
    rw [hdigits s.backtrackLimit, hdigits s.sizeLimit]
    rfl
  rw [Json.Spells, htext]
  exact .tight .openBrace (.tight (Json.spelt_writeString _) (.tight .colon
    (.tight (Json.spelt_writeString _) (.tight .comma
    (.tight (Json.spelt_writeString _) (.tight .colon
    (.tight (Json.spelt_toDigits _) (.tight .comma
    (.tight (Json.spelt_writeString _) (.tight .colon
    (.tight (Json.spelt_toDigits _) (.tight .comma
    (.tight (Json.spelt_writeString _) (.tight .colon
    (.tight (Json.spelt_writeString _) (.tight .closeBrace (.nil Json.isBlank_nil)))))))))))))))))

/-- Settings that are written are read back. -/
theorem readAs_toJson (s : Settings) : ReadAs s.toJson s :=
  readAs_of_spells s.spells_toJson (s.setFields?_fields {})

end Settings

end Leftmost
