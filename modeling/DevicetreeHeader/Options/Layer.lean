import DevicetreeHeader.Text.Basic

/-!
# Options and their layers

A header is rendered with a macro prefix and perhaps an include guard. Each may be set on the
command line, in the environment or in a configuration file. A layer holds what one of these sources
sets; of several layers the first that sets a field decides it, an empty text being set like any
other.
-/

set_option autoImplicit false
set_option relaxedAutoImplicit false

namespace DevicetreeHeader

/-- How a header is rendered. -/
structure Options where
  /-- The first segment of every macro name. -/
  macroPrefix : Text := "DT".toList
  /-- The macro that guards the header against a second inclusion. -/
  includeGuard : Option Text := none
  deriving DecidableEq, Repr

/-- The fields that a layer can set. -/
inductive Field
  | macroPrefix
  | includeGuard
  deriving DecidableEq, Repr

/-- What one source of options sets. -/
structure Layer where
  macroPrefix : Option Text := none
  includeGuard : Option Text := none
  deriving DecidableEq, Repr

namespace Layer

/-- What a layer sets for a field. -/
def get? (layer : Layer) : Field → Option Text
  | .macroPrefix => layer.macroPrefix
  | .includeGuard => layer.includeGuard

/-- The layer with a field set. -/
def set (layer : Layer) (value : Text) : Field → Layer
  | .macroPrefix => { layer with macroPrefix := some value }
  | .includeGuard => { layer with includeGuard := some value }

@[ext]
theorem ext_get? {first second : Layer} (h : ∀ field, first.get? field = second.get? field) :
    first = second := by
  have hprefix := h .macroPrefix
  have hguard := h .includeGuard
  cases first
  cases second
  exact congr (congrArg Layer.mk hprefix) hguard

theorem get?_set (layer : Layer) (value : Text) (field other : Field) :
    (layer.set value field).get? other =
      if other = field then some value else layer.get? other := by
  cases field <;> cases other <;> rfl

end Layer

/-- The options that layers make, earlier ones before later ones. -/
def Options.ofLayers (layers : List Layer) : Options where
  macroPrefix := (layers.findSome? Layer.macroPrefix).getD ({} : Options).macroPrefix
  includeGuard := layers.findSome? Layer.includeGuard

end DevicetreeHeader
