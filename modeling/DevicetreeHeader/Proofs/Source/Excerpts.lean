import DevicetreeHeader.Proofs.Source.AssignmentReading
import DevicetreeHeader.Proofs.Source.Opening
import DevicetreeHeader.Proofs.Text.Marker

/-!
# Excerpts

Reading copies and never composes. The body of a block is an excerpt of the code, a stretch of it
without a closing brace (`excerpt_of_mem_blocks`), and the key and the value of an assignment are
excerpts of the body, the value one without a semicolon (`excerpt_of_mem_assignments`). What cannot
be found in the code can therefore not be found in anything that is read from it.
-/

set_option autoImplicit false
set_option relaxedAutoImplicit false

namespace DevicetreeHeader

namespace Text

theorem isInfix_trimmed (text : Text) : trimmed text <:+: text := by
  have hend : trimmed text <+: text.dropWhile isBlank := by
    rw [trimmed, ← List.reverse_suffix, List.reverse_reverse]
    exact List.dropWhile_suffix isBlank
  exact hend.isInfix.trans (List.dropWhile_suffix isBlank).isInfix

end Text

namespace Source

open Text (isInk isBlank trimmed isInfix_trimmed)

namespace Assignment

/-- The key and the value are excerpts of a text, and the value reaches over no semicolon. -/
structure IsExcerpt (assignment : Assignment) (text : Text) : Prop where
  key : assignment.key <:+: text
  value : assignment.value <:+: text
  semicolon : ';' ∉ assignment.value

variable {assignment : Assignment} {text rest : Text}

theorem IsExcerpt.trans {longer : Text} (hexcerpt : assignment.IsExcerpt text)
    (hstretch : text <:+: longer) : assignment.IsExcerpt longer :=
  ⟨hexcerpt.key.trans hstretch, hexcerpt.value.trans hstretch, hexcerpt.semicolon⟩

/-- A value is read from what follows its equals sign, and what follows the value is left. -/
theorem isExcerpt_of_value? {front key value : Text} (hvalue : value? text = some (value, rest))
    (hkey : key <:+: front ++ '=' :: text) :
    IsExcerpt ⟨key, trimmed value⟩ (front ++ '=' :: text) ∧ rest <:+ text := by
  obtain ⟨-, hsemicolon, rfl⟩ := value?_eq_some_iff.mp hvalue
  have hstretch : value <:+: front ++ '=' :: (value ++ ';' :: rest) :=
    ⟨front ++ ['='], ';' :: rest, by simp⟩
  exact ⟨⟨hkey, (isInfix_trimmed value).trans hstretch,
    fun hmem ↦ hsemicolon ((isInfix_trimmed value).subset hmem)⟩, value ++ [';'], by simp⟩

theorem isExcerpt_of_inRun? {before : Text}
    (hfound : inRun? before text = some (assignment, rest)) :
    assignment.IsExcerpt (before.reverse ++ text) ∧ rest <:+ text := by
  induction text generalizing before with
  | nil => simp [inRun?] at hfound
  | cons c text ih =>
    rw [inRun?] at hfound
    split at hfound
    · simp at hfound
    · split at hfound
      · rename_i found hlater
        obtain rfl := Option.some.inj hfound
        obtain ⟨hexcerpt, hrest⟩ := ih hlater
        rw [List.reverse_cons, List.append_assoc, List.singleton_append] at hexcerpt
        exact ⟨hexcerpt, hrest.trans (List.suffix_cons c text)⟩
      · split at hfound
        · rename_i hequals
          obtain ⟨value, hvalue, hpair⟩ := Option.map_eq_some_iff.mp hfound
          obtain ⟨rfl, rfl⟩ := Prod.mk.inj hpair
          obtain rfl : c = '=' := by simpa using (Bool.and_eq_true_iff.mp hequals).1
          obtain ⟨hexcerpt, hrest⟩ :=
            isExcerpt_of_value? hvalue (List.prefix_append before.reverse ('=' :: text)).isInfix
          exact ⟨hexcerpt, hrest.trans (List.suffix_cons '=' text)⟩
        · simp at hfound

theorem isExcerpt_of_afterRun? (hfound : afterRun? text = some (assignment, rest)) :
    assignment.IsExcerpt text ∧ rest <:+ text := by
  unfold afterRun? at hfound
  split at hfound
  · rename_i after hafter
    obtain ⟨value, hvalue, hpair⟩ := Option.map_eq_some_iff.mp hfound
    obtain ⟨rfl, rfl⟩ := Prod.mk.inj hpair
    have hsuffix : '=' :: after <:+ text :=
      hafter ▸ (List.dropWhile_suffix isBlank).trans (List.dropWhile_suffix isInk)
    obtain ⟨front, rfl⟩ := hsuffix
    obtain ⟨hexcerpt, hrest⟩ := isExcerpt_of_value? hvalue (List.takeWhile_prefix isInk).isInfix
    exact ⟨hexcerpt, hrest.trans ⟨front ++ ['='], by simp⟩⟩
  · simp at hfound

theorem isExcerpt_of_ofRun? (hfound : ofRun? text = some (assignment, rest)) :
    assignment.IsExcerpt text ∧ rest <:+ text := by
  rw [ofRun?, Option.orElse_eq_orElse, Option.orElse_eq_or, Option.or_eq_some_iff] at hfound
  rcases hfound with hafter | ⟨-, hinside⟩
  · exact isExcerpt_of_afterRun? hafter
  · exact isExcerpt_of_inRun? hinside

end Assignment

theorem excerpt_of_mem_assignments (body : Text) :
    ∀ assignment ∈ assignments body, assignment.IsExcerpt body := by
  induction body using assignments.induct with
  | case1 => simp [assignments]
  | case2 c rest hc ih =>
    rw [assignments_cons_of_isBlank hc]
    exact fun assignment hmem ↦ (ih assignment hmem).trans (List.suffix_cons c rest).isInfix
  | case3 c rest hc assignment after hrun ih =>
    rw [Bool.not_eq_true] at hc
    obtain ⟨hexcerpt, hafter⟩ := Assignment.isExcerpt_of_ofRun? hrun
    rw [assignments_of_ofRun? hc hrun, List.forall_mem_cons]
    exact ⟨hexcerpt, fun later hmem ↦ (ih later hmem).trans hafter.isInfix⟩
  | case4 c rest hc hrun ih =>
    have hrest : rest.dropWhile isInk <:+ c :: rest :=
      (List.dropWhile_suffix isInk).trans (List.suffix_cons c rest)
    rw [assignments, if_neg hc]
    split
    · rename_i hfound
      simp [hrun] at hfound
    · exact fun assignment hmem ↦ (ih assignment hmem).trans hrest.isInfix

/-- The body of a block is an excerpt of the text and reaches over no closing brace. -/
theorem excerpt_of_mem_blocks {text : Text} {block : Block} (hblock : block ∈ blocks text) :
    block.body <:+: text ∧ '}' ∉ block.body := by
  rw [blocks_eq_filterMap, List.mem_filterMap] at hblock
  obtain ⟨piece, hpiece, hfound⟩ := hblock
  obtain ⟨before, here, rfl, ⟨-, -, gap₁, gap₂, gap₃, -, -, -, rfl⟩, -⟩ :=
    Block.ofPiece?_eq_some_iff.mp hfound
  rw [closedPieces, List.mem_map] at hpiece
  obtain ⟨pair, hpair, hfirst⟩ := hpiece
  have hmem : pair.1 ∈ text.splitOn '}' := (List.of_mem_zip (List.mem_filter.mp hpair).1).1
  obtain ⟨hstretch, hbrace⟩ := Text.infix_of_mem_splitOn hmem
  rw [hfirst] at hstretch hbrace
  have hbody : block.body <:+: before ++ (block.label ++ (gap₁ ++ ':' :: (gap₂ ++ (block.type ++
      (gap₃ ++ '{' :: block.body))))) :=
    ⟨before ++ (block.label ++ (gap₁ ++ ':' :: (gap₂ ++ (block.type ++ (gap₃ ++ ['{']))))), [],
      by simp⟩
  exact ⟨hbody.trans hstretch, fun hmem ↦ hbrace (hbody.subset hmem)⟩

end Source

end DevicetreeHeader
