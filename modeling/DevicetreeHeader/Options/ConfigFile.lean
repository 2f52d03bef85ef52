import DevicetreeHeader.Options.Layer
import DevicetreeHeader.Toml.Document

/-!
# Options from a configuration file

A configuration file is a TOML document. Its keys `macro-prefix` and `include-guard` set options and
have to be strings if they are there; everything else in it is ignored. `ofToml?` reads a layer and
`toToml` writes it.
-/

set_option autoImplicit false
set_option relaxedAutoImplicit false

namespace DevicetreeHeader.Layer

/-- The key of a field in a configuration file. -/
def fileKey : Field → Text
  | .macroPrefix => "macro-prefix".toList
  | .includeGuard => "include-guard".toList

/-- The string under a key, if the key is there; nothing if something else is. -/
def stringUnder? (items : Keyed Toml.Item) (key : Text) : Option (Option Text) :=
  match items.get? key with
  | none => some none
  | some (.string content) => some (some content)
  | some _ => none

/-- The layer that a configuration file makes. -/
def ofToml? (text : Text) : Option Layer := do
  let items ← Toml.items? text
  return {
    macroPrefix := ← stringUnder? items (fileKey .macroPrefix)
    includeGuard := ← stringUnder? items (fileKey .includeGuard) }

/-- The line of a configuration file that sets a field. -/
def tomlLine (layer : Layer) (field : Field) : Text :=
  match layer.get? field with
  | some content => fileKey field ++ " = ".toList ++ Toml.written content ++ ['\n']
  | none => []

/-- A configuration file that makes the layer. -/
def toToml (layer : Layer) : Text :=
  layer.tomlLine .macroPrefix ++ layer.tomlLine .includeGuard

end DevicetreeHeader.Layer
