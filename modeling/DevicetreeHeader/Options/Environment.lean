import DevicetreeHeader.Keyed
import DevicetreeHeader.Options.Layer

/-!
# Options from the environment

The variables whose names start with `DT_HEADER_` set options. The marker is taken off as often as
it repeats, and the rest of the name is a field without regard to case; other names set nothing. Two
variables may not set the same field.
-/

set_option autoImplicit false
set_option relaxedAutoImplicit false

namespace DevicetreeHeader

/-- The variables of a process with their values. -/
abbrev Environment := Keyed Text

namespace Environment

/-- The environment in a block of lines `name=value`, each ended by a null character. -/
def ofBlock (block : Text) : Environment :=
  Keyed.ofList <| ((block.splitOn '\x00').filter (· ≠ [])).map fun line ↦
    (line.takeWhile (· ≠ '='), (line.dropWhile (· ≠ '=')).drop 1)

/-- The text with which the names of the variables that set options start. -/
def marker : Text :=
  "DT_HEADER_".toList

/-- A name without the markers in front of it. -/
def withoutMarkers : Text → Text
  | 'D' :: 'T' :: '_' :: 'H' :: 'E' :: 'A' :: 'D' :: 'E' :: 'R' :: '_' :: rest =>
    withoutMarkers rest
  | name => name

/-- The field that a variable of the given name sets. -/
def field? (name : Text) : Option Field :=
  if marker.isPrefixOf name then
    let word := (withoutMarkers name).map Char.toLower
    if word = "macro_prefix".toList then some .macroPrefix
    else if word = "include_guard".toList then some .includeGuard
    else none
  else none

/-- Adds the variables to a layer one after the other, up to the first that sets a field again. -/
def addTo (layer : Layer) : Environment → Except Field Layer
  | [] => .ok layer
  | (name, value) :: rest =>
    match field? name with
    | none => addTo layer rest
    | some field =>
      if (layer.get? field).isSome then .error field
      else addTo (layer.set value field) rest

/-- The layer that an environment makes, or the field that it sets twice. -/
def layer (environment : Environment) : Except Field Layer :=
  addTo {} environment

end Environment

end DevicetreeHeader
