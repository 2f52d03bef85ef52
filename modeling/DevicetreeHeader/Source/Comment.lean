import DevicetreeHeader.Text.Basic

/-!
# Comments

Comments are removed in two passes over the whole text. The first removes block comments, the second
what is left of line comments, so that a `//` inside a block comment goes with the block, and a `/*`
after a `//` still opens a block. Neither pass knows strings. A block comment that is never closed
stays where it is.

`removeBlocks` and `removeLines` are the passes and `strip` is their composition.
-/

set_option autoImplicit false
set_option relaxedAutoImplicit false

namespace DevicetreeHeader.Source.Comment

/-- The text after the end of a block comment that has been opened before it. The comment ends at
the first `/` that follows a `*`; `starred` says whether the character just read is a `*`. -/
def afterBlock? (starred : Bool) : Text → Option Text
  | [] => none
  | c :: rest =>
    if c = '*' then afterBlock? true rest
    else if c = '/' && starred then some rest
    else afterBlock? false rest

theorem length_afterBlock? {starred : Bool} {text rest : Text}
    (h : afterBlock? starred text = some rest) : rest.length < text.length := by
  induction text generalizing starred with
  | nil => simp [afterBlock?] at h
  | cons c tail ih =>
    simp only [afterBlock?] at h
    split at h
    · exact Nat.lt_succ_of_lt (ih h)
    · split at h
      · simp only [Option.some.injEq] at h
        subst h
        simp
      · exact Nat.lt_succ_of_lt (ih h)

/-- The text without its block comments. From a `/*` that is never closed on, everything stays. -/
def removeBlocks : Text → Text
  | '/' :: '*' :: rest =>
    match _h : afterBlock? false rest with
    | some after => removeBlocks after
    | none => '/' :: '*' :: rest
  | c :: rest => c :: removeBlocks rest
  | [] => []
termination_by text => text.length
decreasing_by
  · have := length_afterBlock? _h
    simp only [List.length_cons]
    omega
  · simp

/-- The text without its line comments: from `//` up to the end of the line, which stays. -/
def removeLines : Text → Text
  | '/' :: '/' :: rest => removeLines (rest.dropWhile (· ≠ '\n'))
  | c :: rest => c :: removeLines rest
  | [] => []
termination_by text => text.length
decreasing_by
  · have := (List.dropWhile_sublist (fun c : Char ↦ decide (c ≠ '\n')) (l := rest)).length_le
    simp only [List.length_cons]
    omega
  · simp

/-- The text without comments. -/
def strip (text : Text) : Text :=
  removeLines (removeBlocks text)

end DevicetreeHeader.Source.Comment
