import DevicetreeHeader.Text.Basic

/-!
# Markers

A marker is a short text that a longer one is cut at. `cut?` cuts at the first occurrence, the one
with the least text before it (`cut?_eq_some_iff`); where the marker does not occur there is no cut
(`cut?_eq_none_iff`). A character that is not in the marker keeps it from reaching over
(`infix_append_cons`).
-/

set_option autoImplicit false
set_option relaxedAutoImplicit false

namespace DevicetreeHeader.Text

/-- The text before the first occurrence of a marker, and the text after it. -/
def cut? (marker : Text) : Text → Option (Text × Text)
  | [] => none
  | c :: rest =>
    if marker.isPrefixOf (c :: rest) then some ([], (c :: rest).drop marker.length)
    else (cut? marker rest).map fun cut ↦ (c :: cut.1, cut.2)

variable {marker : Text}

theorem cut?_append_self (hmarker : marker ≠ []) (rest : Text) :
    cut? marker (marker ++ rest) = some ([], rest) := by
  obtain ⟨c, tail, rfl⟩ := List.exists_cons_of_ne_nil hmarker
  rw [List.cons_append, cut?, if_pos (by simp)]
  simp

theorem cut?_cons {c : Char} {rest : Text} (hstarts : ¬ marker <+: c :: rest) :
    cut? marker (c :: rest) = (cut? marker rest).map fun cut ↦ (c :: cut.1, cut.2) := by
  rw [cut?, if_neg (by simpa [List.isPrefixOf_iff_prefix] using hstarts)]

theorem append_of_cut? {text before after : Text} (hcut : cut? marker text = some (before, after)) :
    text = before ++ (marker ++ after) := by
  induction text generalizing before with
  | nil => simp [cut?] at hcut
  | cons c rest ih =>
    rw [cut?] at hcut
    split at hcut
    · rename_i hstarts
      obtain ⟨tail, htail⟩ := List.isPrefixOf_iff_prefix.mp hstarts
      obtain ⟨rfl, rfl⟩ : [] = before ∧ (c :: rest).drop marker.length = after := by
        simpa using hcut
      simp [← htail]
    · obtain ⟨⟨shorter, _⟩, hshorter, hpair⟩ := Option.map_eq_some_iff.mp hcut
      obtain ⟨rfl, rfl⟩ := Prod.mk.inj hpair
      rw [List.cons_append, ← ih hshorter]

/-- A text is cut before the first of all occurrences. -/
theorem cut?_eq_some_iff (hmarker : marker ≠ []) {text before after : Text} :
    cut? marker text = some (before, after) ↔ text = before ++ (marker ++ after) ∧
      ∀ other later, text = other ++ (marker ++ later) → before.length ≤ other.length := by
  induction text generalizing before with
  | nil => simp [cut?, hmarker]
  | cons c rest ih =>
    by_cases hstarts : marker <+: c :: rest
    · obtain ⟨tail, htail⟩ := hstarts
      rw [← htail, cut?_append_self hmarker, Option.some.injEq, Prod.mk.injEq]
      constructor
      · rintro ⟨rfl, rfl⟩
        exact ⟨rfl, fun _ _ _ ↦ Nat.zero_le _⟩
      · rintro ⟨hsplit, hleast⟩
        obtain rfl := List.eq_nil_of_length_eq_zero (Nat.le_zero.mp (hleast [] tail rfl))
        exact ⟨rfl, List.append_cancel_left hsplit⟩
    · rw [cut?_cons hstarts, Option.map_eq_some_iff]
      constructor
      · rintro ⟨⟨shorter, _⟩, hshorter, hpair⟩
        obtain ⟨rfl, rfl⟩ := Prod.mk.inj hpair
        obtain ⟨hrest, hleast⟩ := ih.mp hshorter
        refine ⟨by rw [hrest]; rfl, fun other later hsplit ↦ ?_⟩
        cases other with
        | nil => exact absurd ⟨later, hsplit.symm⟩ hstarts
        | cons d other =>
          exact Nat.succ_le_succ (hleast other later (List.cons_eq_cons.mp hsplit).2)
      · rintro ⟨hsplit, hleast⟩
        cases before with
        | nil => exact absurd ⟨after, hsplit.symm⟩ hstarts
        | cons d before =>
          obtain ⟨rfl, hrest⟩ := List.cons_eq_cons.mp hsplit
          refine ⟨(before, after), ih.mpr ⟨hrest, fun other later hother ↦ ?_⟩, rfl⟩
          exact Nat.le_of_succ_le_succ (hleast (c :: other) later (by rw [hother]; rfl))

theorem cut?_eq_none_iff (hmarker : marker ≠ []) {text : Text} :
    cut? marker text = none ↔ ¬ marker <:+: text := by
  induction text with
  | nil => simp [cut?, hmarker]
  | cons c rest ih =>
    rw [List.infix_cons_iff, not_or, ← ih]
    by_cases hstarts : marker <+: c :: rest
    · obtain ⟨tail, htail⟩ := hstarts
      simp [← htail, cut?_append_self hmarker]
    · simp [cut?_cons hstarts, hstarts]

/-- What follows a text does not change where it is cut. -/
theorem cut?_append_of_eq_some {text before after : Text}
    (hcut : cut? marker text = some (before, after)) (rest : Text) :
    cut? marker (text ++ rest) = some (before, after ++ rest) := by
  induction text generalizing before with
  | nil => simp [cut?] at hcut
  | cons c tail ih =>
    by_cases hstarts : marker <+: c :: tail
    · have hlong : marker <+: c :: (tail ++ rest) := hstarts.trans (List.prefix_append _ rest)
      rw [cut?, if_pos (List.isPrefixOf_iff_prefix.mpr hstarts)] at hcut
      obtain ⟨rfl, rfl⟩ := Prod.mk.inj (Option.some.inj hcut)
      rw [List.cons_append, cut?, if_pos (List.isPrefixOf_iff_prefix.mpr hlong),
        ← List.cons_append, List.drop_append_of_le_length hstarts.length_le]
    · rw [cut?_cons hstarts] at hcut
      obtain ⟨⟨shorter, later⟩, hshorter, hpair⟩ := Option.map_eq_some_iff.mp hcut
      obtain ⟨rfl, rfl⟩ := Prod.mk.inj hpair
      -- The marker occurs in the tail and is too short to reach over it.
      have hlong : ¬ marker <+: c :: (tail ++ rest) := by
        intro hlong
        have hlength := congrArg List.length (append_of_cut? hshorter)
        rw [List.length_append, List.length_append] at hlength
        refine hstarts
          (List.prefix_of_prefix_length_le hlong (List.prefix_append (c :: tail) rest) ?_)
        rw [List.length_cons]
        omega
      rw [List.cons_append, cut?_cons hlong, ih hshorter]
      rfl

/-! ### Separators -/

/-- A separator cuts a text behind what holds no separator. -/
theorem cut?_append_cons {mark : Char} {text : Text} (htext : mark ∉ text) (rest : Text) :
    cut? [mark] (text ++ mark :: rest) = some (text, rest) := by
  induction text with
  | nil => exact cut?_append_self (List.cons_ne_nil _ _) rest
  | cons c text ih =>
    rw [List.mem_cons, not_or] at htext
    have hstarts : ¬ [mark] <+: c :: (text ++ mark :: rest) :=
      fun hmark ↦ htext.1 (List.cons_prefix_cons.mp hmark).1
    rw [List.cons_append, cut?_cons hstarts, ih htext.2]
    rfl

theorem startsWith_append_cons {c : Char} (hc : c ∉ marker) (text rest : Text) :
    marker <+: text ++ c :: rest ↔ marker <+: text := by
  constructor
  · intro hstarts
    rcases List.prefix_or_prefix_of_prefix hstarts (List.prefix_append text (c :: rest)) with h | h
    · exact h
    · obtain ⟨tail, rfl⟩ := h
      have htail := (List.prefix_append_right_inj text).mp hstarts
      cases tail with
      | nil => simp
      | cons d tail =>
        obtain ⟨rfl, -⟩ := List.cons_prefix_cons.mp htail
        exact absurd (List.mem_append_right text List.mem_cons_self) hc
  · intro hstarts
    exact hstarts.trans (List.prefix_append text (c :: rest))

/-- A marker does not reach over a character that is not in it. -/
theorem infix_append_cons {c : Char} (hc : c ∉ marker) (text rest : Text) :
    marker <:+: text ++ c :: rest ↔ marker <:+: text ∨ marker <:+: rest := by
  induction text with
  | nil =>
    have hstarts := startsWith_append_cons hc [] rest
    rw [List.nil_append, List.prefix_nil] at hstarts
    rw [List.nil_append, List.infix_cons_iff, hstarts, List.infix_nil]
  | cons d text ih =>
    rw [List.cons_append, List.infix_cons_iff, List.infix_cons_iff, ih, or_assoc,
      ← List.cons_append, startsWith_append_cons hc]

/-- The pieces that a text is cut into stand in it, and the separator stands in none of them. -/
theorem infix_of_mem_splitOn {mark : Char} {text piece : Text}
    (hpiece : piece ∈ text.splitOn mark) : piece <:+: text ∧ mark ∉ piece := by
  induction hlength : text.length using Nat.strongRecOn generalizing text with
  | _ length ih =>
    by_cases hmark : mark ∈ text
    · obtain ⟨first, rest, rfl, hfirst⟩ := List.eq_append_cons_of_mem hmark
      rw [List.splitOn_append_cons_self_of_not_mem hfirst, List.mem_cons] at hpiece
      rcases hpiece with rfl | hrest
      · exact ⟨(List.prefix_append piece _).isInfix, hfirst⟩
      · obtain ⟨hstretch, hnot⟩ := ih rest.length (by simp [← hlength]; omega) hrest rfl
        exact ⟨hstretch.trans ⟨first ++ [mark], [], by simp⟩, hnot⟩
    · rw [List.splitOn_eq_singleton hmark, List.mem_singleton] at hpiece
      exact ⟨hpiece ▸ List.infix_rfl, hpiece ▸ hmark⟩

end DevicetreeHeader.Text
