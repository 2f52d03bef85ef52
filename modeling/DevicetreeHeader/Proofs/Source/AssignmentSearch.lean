import DevicetreeHeader.Proofs.Source.AssignmentScan
import DevicetreeHeader.Proofs.Source.BlockSearch
import Mathlib.Data.List.Forall2

/-!
# Searching for assignments

`Assignment.pattern` describes an assignment with its key and its value captured. Unlike the pattern
of a block it may have to give characters back. The key takes its whole run, but the run may hold
the equals sign that is needed after it; the blanks after the equals sign are taken first, but one
of them is needed if the value is blank.

The keys that can be tried at a place are the beginnings of its run, the longest first, and for each
of them the rest of the pattern agrees with what is read there (`rel_equalsPattern`). A value that
had to get a blank back is the same without the blanks at its ends. So the way that a search prefers
is the one that is read (`rel_pattern`), and since a run that is read as nothing has no match in it
(`search_dropWhile`), the matches of a body are its assignments, one by one (`forall₂_search`).
-/

set_option autoImplicit false
set_option relaxedAutoImplicit false

namespace DevicetreeHeader.Source.Assignment

open Text

/-- The characters of a value and its end: everything up to a semicolon, and the semicolon. -/
def endPattern : Pattern :=
  [⟨(· ≠ ';'), .some, true⟩, ⟨(· == ';'), .single, false⟩]

/-- What follows an equals sign: a value with blanks before it. -/
def valuePattern : Pattern :=
  ⟨isBlank, .any, false⟩ :: endPattern

/-- What follows a key: an equals sign with blanks before it, and a value. -/
def equalsPattern : Pattern :=
  Block.markPattern '=' valuePattern

/-- A key: at least one character that is no blank. -/
def keyPart : Part :=
  ⟨isInk, .some, true⟩

/-- An assignment: `(\S+)\s*=\s*([^;]+);`. -/
def pattern : Pattern :=
  keyPart :: equalsPattern

theorem pattern_consumes : pattern.consumes = true :=
  rfl

/-- The matches of the pattern in a body. -/
abbrev search (body : Text) : List Match :=
  pattern.findAll pattern_consumes body

/-- A way captures a value up to the blanks at its ends, and leaves what follows its semicolon. -/
def CapturesValue (way : Way) (cut : Text × Text) : Prop :=
  ∃ raw, way = ⟨[raw], cut.2⟩ ∧ trimmed raw = trimmed cut.1

/-- A way captures the key and the value of an assignment, the value perhaps with blanks at its
ends, and leaves the given text. -/
def Captures (way : Way) (found : Assignment × Text) : Prop :=
  ∃ raw, way = ⟨[found.1.key, raw], found.2⟩ ∧ trimmed raw = found.1.value

/-! ### The value -/

theorem first?_endPattern (text : Text) :
    endPattern.first? text = (value? text).map fun cut ↦ ⟨[cut.1], cut.2⟩ := by
  have hrefuses : Pattern.Refuses [⟨(· == ';'), .single, false⟩] (fun c ↦ decide (c ≠ ';')) :=
    Pattern.refuses_of_ne_any (by decide) (by simp)
  cases text with
  | nil => rfl
  | cons c rest =>
    by_cases hc : c = ';'
    · subst hc
      rfl
    · have hkeep : decide (c ≠ ';') = true := decide_eq_true hc
      have hend : ∀ d ∈ (rest.dropWhile (· ≠ ';')).head?, decide (d ≠ ';') = false :=
        head?_dropWhile rest
      rw [Pattern.first?, endPattern, Pattern.ways_some hrefuses hkeep, value?]
      simp only [List.takeWhile_cons, List.dropWhile_cons, hkeep, if_true]
      cases hdrop : rest.dropWhile (· ≠ ';') with
      | nil => rfl
      | cons d next =>
        rw [hdrop] at hend
        obtain rfl : d = ';' := by simpa using hend d rfl
        rfl

theorem trimmed_cons_of_isBlank {c : Char} (hc : isBlank c = true) (text : Text) :
    trimmed (c :: text) = trimmed text := by
  rw [trimmed, trimmed, List.dropWhile_cons_of_pos hc]

theorem value?_cons_of_some {c : Char} (hc : c ≠ ';') {text value rest : Text}
    (hvalue : value? text = some (value, rest)) : value? (c :: text) = some (c :: value, rest) := by
  obtain ⟨-, hend, rfl⟩ := value?_eq_some_iff.mp hvalue
  exact value?_eq_some_iff.mpr ⟨List.cons_ne_nil _ _, by simp [hend, Ne.symm hc], rfl⟩

theorem rel_endPattern (text : Text) :
    Option.Rel CapturesValue (endPattern.first? text) (value? text) := by
  rw [first?_endPattern]
  cases value? text with
  | none => exact .none
  | some cut => exact .some ⟨cut.1, rfl, rfl⟩

/-- The blanks before a value are taken off it, except the last one if nothing else is left. -/
theorem rel_valuePattern (text : Text) :
    Option.Rel CapturesValue (valuePattern.first? text) (value? text) := by
  induction text with
  | nil => exact .none
  | cons c text ih =>
    rw [valuePattern, Pattern.first?_any_cons, ← valuePattern]
    split
    · rename_i hc
      have hsemicolon : c ≠ ';' := by
        rintro rfl
        exact absurd hc (by decide)
      generalize hfirst : valuePattern.first? text = first at ih ⊢
      generalize hvalue : value? text = cut at ih
      cases ih with
      | none =>
        rw [Option.none_or]
        exact rel_endPattern (c :: text)
      | some hcaptures =>
        obtain ⟨raw, rfl, htrimmed⟩ := hcaptures
        rw [Option.some_or, value?_cons_of_some hsemicolon hvalue]
        exact .some ⟨raw, rfl, htrimmed.trans (trimmed_cons_of_isBlank hc _).symm⟩
    · exact rel_endPattern (c :: text)

/-! ### The key -/

/-- After a key the pattern agrees with what is read there. -/
theorem rel_equalsPattern (key text : Text) : Option.Rel Captures
    ((equalsPattern.first? text).map (Way.after keyPart key)) (assign? key text) := by
  have hequals : isBlank '=' = false := by decide
  rw [Pattern.first?, equalsPattern]
  cases hstart : text.dropWhile isBlank with
  | nil =>
    rw [Block.ways_markPattern_of_blank hequals _ hstart, assign?, hstart]
    exact .none
  | cons c after =>
    rw [Block.ways_markPattern hequals _ hstart]
    by_cases hc : c = '='
    · subst hc
      have hread : assign? key text =
          (value? after).map fun found ↦ (⟨key, trimmed found.1⟩, found.2) := by
        rw [assign?, hstart]
        rfl
      have hvalue := rel_valuePattern after
      rw [if_pos rfl, hread, ← Pattern.first?]
      generalize valuePattern.first? after = first at hvalue ⊢
      generalize value? after = cut at hvalue ⊢
      cases hvalue with
      | none => exact .none
      | some hcaptures =>
        obtain ⟨raw, rfl, htrimmed⟩ := hcaptures
        exact .some ⟨raw, rfl, htrimmed⟩
    · rw [if_neg hc, assign?, hstart]
      split
      · rename_i heq
        exact absurd (List.cons_eq_cons.mp heq).1 hc
      · exact .none

/-- The keys that can be tried in a run, the longest first, are those that are read. -/
theorem findSome?_stretches {before : Text} (hbefore : before ≠ []) (rest : Text) :
    ((stretches isInk rest).findSome? fun cut ↦ assign? (before.reverse ++ cut.1) cut.2) =
      (assign? (before.reverse ++ rest.takeWhile isInk) (rest.dropWhile isInk)).or
        (inRun? before rest) := by
  induction rest generalizing before with
  | nil => simp [stretches, inRun?]
  | cons c rest ih =>
    rw [Pattern.findSome?_stretches_cons]
    split
    · rename_i hc
      have hblank : isBlank c = false := isInk_eq_true_iff.mp hc
      have hlater := ih (List.cons_ne_nil c before)
      simp only [List.reverse_cons, List.append_assoc, List.singleton_append] at hlater
      rw [hlater, inRun?_cons hblank hbefore, List.takeWhile_cons_of_pos hc,
        List.dropWhile_cons_of_pos hc, List.append_nil, Option.or_assoc]
    · rename_i hc
      have hblank : isBlank c = true := isInk_eq_false_iff.mp (Bool.eq_false_iff.mpr hc)
      rw [List.takeWhile_cons_of_neg hc, List.dropWhile_cons_of_neg hc,
        inRun?_of_head? (by simpa using hblank), Option.or_none]

theorem ofRun?_eq_findSome? {c : Char} (hc : isBlank c = false) (rest : Text) :
    ofRun? (c :: rest) =
      (stretches isInk rest).findSome? fun cut ↦ assign? (c :: cut.1) cut.2 := by
  have hink : isInk c = true := isInk_eq_true_iff.mpr hc
  have hkeys := findSome?_stretches (List.cons_ne_nil c []) rest
  simp only [List.reverse_singleton, List.singleton_append] at hkeys
  rw [hkeys, ofRun?, Option.orElse_eq_orElse, Option.orElse_eq_or, afterRun?_eq,
    List.takeWhile_cons_of_pos hink, List.dropWhile_cons_of_pos hink, inRun?_nil_cons hc]

theorem rel_findSome? {α β γ : Type} {related : β → γ → Prop} {first : α → Option β}
    {second : α → Option γ} (hrelated : ∀ a, Option.Rel related (first a) (second a))
    (list : List α) : Option.Rel related (list.findSome? first) (list.findSome? second) := by
  induction list with
  | nil => exact .none
  | cons a list ih =>
    rw [List.findSome?_cons, List.findSome?_cons]
    have ha := hrelated a
    generalize first a = b at ha ⊢
    generalize second a = d at ha ⊢
    cases ha with
    | none => exact ih
    | some hrelated => exact .some hrelated

/-- The preferred way at the start of a run is the assignment that is read of the run. -/
theorem rel_pattern {c : Char} (hc : isBlank c = false) (rest : Text) :
    Option.Rel Captures (pattern.first? (c :: rest)) (ofRun? (c :: rest)) := by
  have hink : isInk c = true := isInk_eq_true_iff.mpr hc
  rw [pattern, keyPart, Pattern.first?_some_cons hink, ofRun?_eq_findSome? hc]
  exact rel_findSome? (fun cut : Text × Text ↦ rel_equalsPattern (c :: cut.1) cut.2) _

/-! ### The search -/

theorem search_cons_of_isBlank {c : Char} (hc : isBlank c = true) (rest : Text) :
    search (c :: rest) = search rest := by
  refine Pattern.findAll_cons_of_ways_eq_nil (Pattern.ways_eq_nil_of_head? (by decide) ?_)
  exact head?_cons_of_eq_false (isInk_eq_false_iff.mpr hc)

theorem search_cons_of_ofRun?_eq_none {c : Char} (hc : isBlank c = false) {rest : Text}
    (hnone : ofRun? (c :: rest) = none) : search (c :: rest) = search rest := by
  have hfirst := rel_pattern hc rest
  rw [hnone] at hfirst
  generalize hway : pattern.first? (c :: rest) = way at hfirst
  cases hfirst
  exact Pattern.findAll_cons_of_ways_eq_nil (List.head?_eq_none_iff.mp hway)

/-- If a run is read as nothing, so is the rest of it. -/
theorem ofRun?_tail_eq_none {c d : Char} (hc : isBlank c = false) (hd : isBlank d = false)
    {rest : Text} (hnone : ofRun? (c :: d :: rest) = none) : ofRun? (d :: rest) = none := by
  have hink : isInk d = true := isInk_eq_true_iff.mpr hd
  rw [ofRun?_eq_findSome? hc, Pattern.findSome?_stretches_cons, if_pos hink,
    Option.or_eq_none_iff, List.findSome?_eq_none_iff] at hnone
  rw [ofRun?_eq_findSome? hd, List.findSome?_eq_none_iff]
  intro cut hcut
  exact assign?_eq_none_iff.mpr (assign?_eq_none_iff.mp (hnone.1 cut hcut))

/-- No match starts in a run that is read as nothing. -/
theorem search_dropWhile {c : Char} (hc : isBlank c = false) {rest : Text}
    (hnone : ofRun? (c :: rest) = none) :
    search (c :: rest) = search (rest.dropWhile isInk) := by
  induction rest generalizing c with
  | nil => exact search_cons_of_ofRun?_eq_none hc hnone
  | cons d rest ih =>
    rw [search_cons_of_ofRun?_eq_none hc hnone]
    by_cases hd : isBlank d = true
    · rw [List.dropWhile_cons_of_neg (by simp [isInk, hd])]
    · rw [Bool.not_eq_true] at hd
      rw [List.dropWhile_cons_of_pos (isInk_eq_true_iff.mpr hd)]
      exact ih hd (ofRun?_tail_eq_none hc hd hnone)

/-- A match captures the key and the value of an assignment, the value with blanks at its ends. -/
def Reports (found : Match) (assignment : Assignment) : Prop :=
  ∃ raw, found.groups = [assignment.key, raw] ∧ assignment.value = trimmed raw

/-- The matches of a body report its assignments, which are what a scan finds and nothing else. -/
theorem forall₂_search (body : Text) :
    List.Forall₂ Reports (search body) (assignments body) ∧
      ∀ found, Scan body found ↔ found = assignments body := by
  refine ⟨?_, fun found ↦ scan_iff⟩
  induction body using assignments.induct with
  | case1 =>
    rw [assignments, search, Pattern.findAll]
    exact .nil
  | case2 c rest hc ih =>
    rwa [assignments_cons_of_isBlank hc, search_cons_of_isBlank hc]
  | case3 c rest hc assignment after hfound ih =>
    rw [Bool.not_eq_true] at hc
    have hfirst := rel_pattern hc rest
    rw [hfound] at hfirst
    generalize hway : pattern.first? (c :: rest) = way at hfirst
    cases hfirst with
    | some hcaptures =>
      obtain ⟨raw, rfl, htrimmed⟩ := hcaptures
      rw [assignments_of_ofRun? hc hfound, search, Pattern.findAll_cons_of_head? hway]
      exact .cons ⟨raw, rfl, htrimmed.symm⟩ ih
  | case4 c rest hc hnone ih =>
    rw [Bool.not_eq_true] at hc
    rwa [assignments_of_ofRun?_eq_none hc hnone, search_dropWhile hc hnone]

end DevicetreeHeader.Source.Assignment
