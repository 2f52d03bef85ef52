import DevicetreeHeader.Options.ConfigFile
import DevicetreeHeader.Proofs.Toml.WrittenStrings

/-!
# Configuration files written and read

A configuration file that is written for a layer has one line for each field that the layer sets
(`toToml_eq_stringLines`). Its keys are bare and distinct, and so it is read as the strings under
these keys. A field is set again exactly if it had a line, to any content that it had, and so the
file makes the layer it was written for (`toToml_is_read_back`).
-/

set_option autoImplicit false
set_option relaxedAutoImplicit false

namespace DevicetreeHeader.Layer

section Settings

variable (layer : Layer)

/-- What a layer sets, under the keys of a configuration file. -/
def settings : Keyed Text :=
  [Field.macroPrefix, .includeGuard].filterMap fun field ↦
    (layer.get? field).map fun content ↦ (fileKey field, content)

/-- One line for each field that is set, and none for the others. -/
theorem toToml_eq_stringLines : layer.toToml = Toml.stringLines layer.settings := by
  obtain ⟨_ | macroPrefix, _ | includeGuard⟩ := layer <;>
    simp [toToml, tomlLine, settings, Toml.stringLines, Toml.stringLine, get?]

theorem keys_settings_sublist :
    layer.settings.keys.Sublist [fileKey .macroPrefix, fileKey .includeGuard] := by
  obtain ⟨_ | macroPrefix, _ | includeGuard⟩ := layer
  · exact List.nil_sublist _
  · exact List.sublist_cons_self _ _
  · exact List.Sublist.cons_cons _ (List.nil_sublist _)
  · exact List.Sublist.refl _

theorem nodup_keys_settings : layer.settings.keys.Nodup :=
  List.Nodup.sublist layer.keys_settings_sublist (by decide)

theorem bare_of_mem_settings : ∀ entry ∈ layer.settings, Toml.Bare entry.1 := by
  intro entry hentry
  have hkey := layer.keys_settings_sublist.subset (List.mem_map_of_mem hentry)
  rw [List.mem_cons, List.mem_singleton] at hkey
  obtain hkey | hkey := hkey
  · exact hkey ▸ ⟨by decide, List.all_eq_true.mp rfl⟩
  · exact hkey ▸ ⟨by decide, List.all_eq_true.mp rfl⟩

/-- Under the key of a field stands what the layer sets, and nothing if it leaves the field
alone. -/
theorem stringUnder?_settings (field : Field) :
    stringUnder? (Toml.strings layer.settings) (fileKey field) = some (layer.get? field) := by
  obtain ⟨_ | macroPrefix, _ | includeGuard⟩ := layer <;> cases field <;> rfl

end Settings

/-- The configuration file that is written for a layer makes this layer, whichever fields it sets
and to whatever content. Content that needs no escape stands in its line as it is. -/
theorem toToml_is_read_back (layer : Layer) : ofToml? layer.toToml = some layer ∧
    ∀ field content, layer.get? field = some content →
      (∀ c ∈ content, Toml.isUnescaped c = true) →
      layer.tomlLine field =
        fileKey field ++ " = ".toList ++ '"' :: content ++ ['"'] ++ ['\n'] := by
  constructor
  · have hitems := Toml.items?_stringLines layer.bare_of_mem_settings layer.nodup_keys_settings
    rw [ofToml?, toToml_eq_stringLines, hitems]
    simp only [stringUnder?_settings, Option.bind_eq_bind, Option.bind_some]
    rfl
  · intro field content hset hcontent
    rw [tomlLine, hset]
    simp only [Toml.written_of_unescaped hcontent, List.append_assoc]

/-- The prefix looks like a comment and a table, and the guard is set to nothing. -/
def markedLayer : Layer where
  macroPrefix := some "# [x] = ".toList
  includeGuard := some []

theorem toToml_is_read_back_markedLayer :
    markedLayer.toToml =
      "macro-prefix = \"# [x] = \"\ninclude-guard = \"\"\n".toList ∧
    ofToml? markedLayer.toToml = some markedLayer := by
  obtain ⟨hread, hlines⟩ := toToml_is_read_back markedLayer
  have hprefix := hlines .macroPrefix _ rfl (List.all_eq_true.mp rfl)
  have hguard := hlines .includeGuard _ rfl (List.all_eq_true.mp rfl)
  exact ⟨by rw [toToml, hprefix, hguard]; rfl, hread⟩

end DevicetreeHeader.Layer
