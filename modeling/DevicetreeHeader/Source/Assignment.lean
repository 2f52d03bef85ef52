import DevicetreeHeader.Text.Blank

/-!
# Assignments

A body holds assignments `key = value;`. A key is a run of non-blank characters, and the run is
taken as long as possible: it may hold `=` and `;`, so that `a=1;b=2;` is one assignment to `a=1;b`.
An equals sign can be chosen only if something other than a semicolon follows it and a semicolon
ends its value (`value?`). A run assigns with the equals sign after it if that one can be chosen, or
else with the last one inside it. Text that forms no assignment is passed over.
-/

set_option autoImplicit false
set_option relaxedAutoImplicit false

namespace DevicetreeHeader.Source

open Text

/-- A key and its value as they stand in the source, the value without blanks at its ends. -/
structure Assignment where
  key : Text
  value : Text
  deriving DecidableEq, Repr

namespace Assignment

/-- What an equals sign assigns, from the text after it: the non-empty text up to the next
semicolon, and the text after that semicolon. -/
def value? (text : Text) : Option (Text × Text) :=
  match text.takeWhile (· ≠ ';'), text.dropWhile (· ≠ ';') with
  | c :: value, _ :: rest => some (c :: value, rest)
  | _, _ => none

theorem length_value? {text value rest : Text} (h : value? text = some (value, rest)) :
    rest.length < text.length := by
  have hsub := (List.dropWhile_sublist (fun c : Char ↦ decide (c ≠ ';')) (l := text)).length_le
  unfold value? at h
  split at h
  · rename_i c v d r htake hdrop
    simp only [Option.some.injEq, Prod.mk.injEq] at h
    rw [hdrop, h.2] at hsub
    simp only [List.length_cons] at hsub
    omega
  · simp at h

/-- The assignment at the last equals sign of a run that can be chosen and is not its first
character, with the text after it. `before` is the part of the run already read, backwards. -/
def inRun? (before : Text) : Text → Option (Assignment × Text)
  | [] => none
  | c :: rest =>
    if isBlank c then none
    else match inRun? (c :: before) rest with
      | some found => some found
      | none =>
        if c = '=' && !before.isEmpty then
          (value? rest).map fun found ↦ (⟨before.reverse, trimmed found.1⟩, found.2)
        else none

theorem length_inRun? {before text rest : Text} {assignment : Assignment}
    (h : inRun? before text = some (assignment, rest)) : rest.length < text.length := by
  induction text generalizing before with
  | nil => simp [inRun?] at h
  | cons c tail ih =>
    simp only [inRun?] at h
    split at h
    · simp at h
    · split at h
      · rename_i found hfound
        simp only [Option.some.injEq] at h
        subst h
        exact Nat.lt_succ_of_lt (ih hfound)
      · split at h
        · simp only [Option.map_eq_some_iff, Prod.mk.injEq] at h
          obtain ⟨⟨value, after⟩, hvalue, -, rfl⟩ := h
          exact Nat.lt_succ_of_lt (length_value? hvalue)
        · simp at h

/-- The assignment at the equals sign that follows the run at the start of a text, if it can be
chosen, with the text after it. -/
def afterRun? (text : Text) : Option (Assignment × Text) :=
  match (text.dropWhile isInk).dropWhile isBlank with
  | '=' :: rest =>
    (value? rest).map fun found ↦ (⟨text.takeWhile isInk, trimmed found.1⟩, found.2)
  | _ => none

theorem length_afterRun? {text rest : Text} {assignment : Assignment}
    (h : afterRun? text = some (assignment, rest)) : rest.length < text.length := by
  have hink := (List.dropWhile_sublist isInk (l := text)).length_le
  have hblank := (List.dropWhile_sublist isBlank (l := text.dropWhile isInk)).length_le
  unfold afterRun? at h
  split at h
  · rename_i after hafter
    simp only [Option.map_eq_some_iff, Prod.mk.injEq] at h
    obtain ⟨⟨value, remaining⟩, hvalue, -, hrest⟩ := h
    have hlength : remaining.length < after.length := length_value? hvalue
    rw [hafter] at hblank
    rw [← hrest]
    simp only [List.length_cons] at hblank ⊢
    omega
  · simp at h

/-- The assignment of the run at the start of a text, with the text after it. -/
def ofRun? (text : Text) : Option (Assignment × Text) :=
  afterRun? text <|> inRun? [] text

theorem length_ofRun? {text rest : Text} {assignment : Assignment}
    (h : ofRun? text = some (assignment, rest)) : rest.length < text.length := by
  simp only [ofRun?, Option.orElse_eq_orElse, Option.orElse_eq_or, Option.or_eq_some_iff] at h
  rcases h with h | ⟨-, h⟩
  · exact length_afterRun? h
  · exact length_inRun? h

end Assignment

/-- The assignments of a body, in order; a key may occur several times. -/
def assignments : Text → List Assignment
  | [] => []
  | c :: rest =>
    if isBlank c then assignments rest
    else match _h : Assignment.ofRun? (c :: rest) with
      | some (assignment, after) => assignment :: assignments after
      | none => assignments (rest.dropWhile isInk)
termination_by text => text.length
decreasing_by
  · simp
  · have := Assignment.length_ofRun? _h
    simpa using this
  · have := (List.dropWhile_sublist isInk (l := rest)).length_le
    simp only [List.length_cons]
    omega

end DevicetreeHeader.Source
