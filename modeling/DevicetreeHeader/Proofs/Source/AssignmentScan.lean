import DevicetreeHeader.Proofs.Source.AssignmentReading

/-!
# Scanning for assignments

A scan goes through the runs of a body in order and asks of each which equals sign it chooses
(`Chosen`): the one after the run if that one is usable, or else the last usable one inside it, but
not its first character. A run that chooses none is passed over; after a chosen equals sign the scan
goes on behind the semicolon of the value, be it in the middle of a run. `Scan` says this without
looking for anything. A body is scanned in exactly one way, and the scan gives the assignments that
are read from it (`scan_iff`).
-/

set_option autoImplicit false
set_option relaxedAutoImplicit false

namespace DevicetreeHeader.Source

open Text

/-- A run of characters that are no blanks, with the text after it: the run cannot be made longer
at its end. -/
structure MaximalRun (run rest : Text) : Prop where
  ne_nil : run ≠ []
  ink : ∀ c ∈ run, isBlank c = false
  blank : ∀ c ∈ rest.head?, isBlank c = true

theorem MaximalRun.isInk {run rest : Text} (hrun : MaximalRun run rest) :
    ∀ c ∈ run, Text.isInk c = true :=
  fun c hc ↦ isInk_eq_true_iff.mpr (hrun.ink c hc)

theorem MaximalRun.isInk_head? {run rest : Text} (hrun : MaximalRun run rest) :
    ∀ c ∈ rest.head?, Text.isInk c = false :=
  fun c hc ↦ isInk_eq_false_iff.mpr (hrun.blank c hc)

theorem isBlank_of_mem_takeWhile {text : Text} {c : Char} (hc : c ∈ text.takeWhile isInk) :
    isBlank c = false :=
  isInk_eq_true_iff.mp (mem_takeWhile hc)

theorem isBlank_head?_dropWhile (text : Text) :
    ∀ c ∈ (text.dropWhile isInk).head?, isBlank c = true := by
  intro c hc
  exact isInk_eq_false_iff.mp (head?_dropWhile text c hc)

namespace Assignment

/-- An equals sign with the given text after it can be chosen: something other than a semicolon
follows at once, and a semicolon later. -/
def Usable (after : Text) : Prop :=
  ∃ c later, after = c :: later ∧ c ≠ ';' ∧ ';' ∈ later

/-- The first character after a run that is no blank is a usable equals sign. -/
def EqualsBehind (rest after : Text) : Prop :=
  ∃ gap, Blank gap ∧ rest = gap ++ '=' :: after ∧ Usable after

/-- A usable equals sign stands in a run behind the key, with the tail of the run after it. -/
def EqualsInside (run rest key tail : Text) : Prop :=
  run = key ++ '=' :: tail ∧ Usable (tail ++ rest)

/-- No usable equals sign of a run stands further on than the one behind the key. -/
structure LastInside (run rest key tail : Text) : Prop where
  equals : EqualsInside run rest key tail
  last : ∀ later tail', ¬ EqualsInside tail rest later tail'

/-- The equals sign that a run with the given text after it chooses: what stands before it is the
key, and the last text is what stands after it. -/
inductive Chosen (run rest : Text) : Text → Text → Prop
  | behind {after : Text} (hequals : EqualsBehind rest after) : Chosen run rest run after
  | inside {key tail : Text} (hbehind : ∀ after, ¬ EqualsBehind rest after) (hne : key ≠ [])
      (hlast : LastInside run rest key tail) : Chosen run rest key (tail ++ rest)

end Assignment

open Assignment

/-- The assignments that a scan finds in a text. -/
inductive Scan : Text → List Assignment → Prop
  | done {gap : Text} (hgap : Blank gap) : Scan gap []
  | passed {gap run rest : Text} {found : List Assignment} (hgap : Blank gap)
      (hrun : MaximalRun run rest) (hnone : ∀ key after, ¬ Chosen run rest key after)
      (hscan : Scan rest found) : Scan (gap ++ (run ++ rest)) found
  | assigned {gap run rest key value next : Text} {found : List Assignment} (hgap : Blank gap)
      (hrun : MaximalRun run rest) (hchosen : Chosen run rest key (value ++ ';' :: next))
      (hvalue : ';' ∉ value) (hscan : Scan next found) :
      Scan (gap ++ (run ++ rest)) (⟨key, trimmed value⟩ :: found)

namespace Assignment

/-! ### Usable equals signs -/

theorem usable_append {value : Text} (hne : value ≠ []) (hvalue : ';' ∉ value) (next : Text) :
    Usable (value ++ ';' :: next) := by
  obtain ⟨c, tail, rfl⟩ := List.exists_cons_of_ne_nil hne
  exact ⟨c, tail ++ ';' :: next, rfl, fun hc ↦ hvalue (hc ▸ List.mem_cons_self), by simp⟩

theorem exists_value_of_usable {after : Text} (husable : Usable after) :
    ∃ value next, value ≠ [] ∧ ';' ∉ value ∧ after = value ++ ';' :: next := by
  obtain ⟨c, later, rfl, hc, hsemicolon⟩ := husable
  obtain ⟨value, next, rfl, hvalue⟩ := List.eq_append_cons_of_mem hsemicolon
  exact ⟨c :: value, next, List.cons_ne_nil _ _, by simp [hvalue, Ne.symm hc], rfl⟩

/-! ### Reading at the end of a key -/

/-- The assignment to a key that ends where a text starts, with the text after it. -/
def assign? (key text : Text) : Option (Assignment × Text) :=
  match text.dropWhile isBlank with
  | '=' :: after => (value? after).map fun found ↦ (⟨key, trimmed found.1⟩, found.2)
  | _ => none

theorem assign?_append_equals {gap : Text} (hgap : Blank gap) (key after : Text) :
    assign? key (gap ++ '=' :: after) =
      (value? after).map fun found ↦ (⟨key, trimmed found.1⟩, found.2) := by
  have hequals : ∀ c ∈ ('=' :: after).head?, isBlank c = false :=
    head?_cons_of_eq_false (by decide)
  rw [assign?, dropWhile_append_of_head? hgap hequals]
  rfl

theorem assign?_cons_of_ne {c : Char} (hc : isBlank c = false) (hne : c ≠ '=') (key rest : Text) :
    assign? key (c :: rest) = none := by
  rw [assign?, dropWhile_of_head? (head?_cons_of_eq_false hc)]
  split
  · rename_i after hafter
    exact absurd (List.cons_eq_cons.mp hafter).1 hne
  · rfl

theorem assign?_eq_some_iff {key text next : Text} {assignment : Assignment} :
    assign? key text = some (assignment, next) ↔ ∃ value, assignment = ⟨key, trimmed value⟩ ∧
      ';' ∉ value ∧ EqualsBehind text (value ++ ';' :: next) := by
  constructor
  · intro h
    unfold assign? at h
    split at h
    · rename_i after hafter
      obtain ⟨⟨value, rest⟩, hvalue, hpair⟩ := Option.map_eq_some_iff.mp h
      obtain ⟨rfl, rfl⟩ := Prod.mk.inj hpair
      obtain ⟨hne, hend, rfl⟩ := value?_eq_some_iff.mp hvalue
      refine ⟨value, rfl, hend, text.takeWhile isBlank, fun _ ↦ mem_takeWhile, ?_,
        usable_append hne hend rest⟩
      rw [← hafter, List.takeWhile_append_dropWhile]
    · simp at h
  · rintro ⟨value, rfl, hvalue, gap, hgap, rfl, c, later, hsplit, hc, -⟩
    have hne : value ≠ [] := by
      rintro rfl
      exact hc (List.cons_eq_cons.mp hsplit).1.symm
    rw [assign?_append_equals hgap, value?_append hne hvalue, Option.map_some]

theorem assign?_eq_none_iff {key text : Text} :
    assign? key text = none ↔ ∀ after, ¬ EqualsBehind text after := by
  rw [Option.eq_none_iff_forall_ne_some]
  constructor
  · rintro hnone after ⟨gap, hgap, rfl, husable⟩
    obtain ⟨value, next, -, hvalue, rfl⟩ := exists_value_of_usable husable
    exact hnone _ (assign?_eq_some_iff.mpr ⟨value, rfl, hvalue, gap, hgap, rfl, husable⟩)
  · rintro hnot ⟨assignment, next⟩ hfound
    obtain ⟨value, -, -, hequals⟩ := assign?_eq_some_iff.mp hfound
    exact hnot _ hequals

/-! ### Reading a run -/

theorem afterRun?_eq (text : Text) :
    afterRun? text = assign? (text.takeWhile isInk) (text.dropWhile isInk) :=
  rfl

theorem inRun?_of_head? {rest : Text} (hrest : ∀ c ∈ rest.head?, isBlank c = true) (before : Text) :
    inRun? before rest = none := by
  cases rest with
  | nil => rfl
  | cons c rest => rw [inRun?, if_pos (hrest c rfl)]

/-- The equals signs further on in a run come before the one here. -/
theorem inRun?_cons {c : Char} (hc : isBlank c = false) {before : Text} (hbefore : before ≠ [])
    (rest : Text) : inRun? before (c :: rest) =
      (inRun? (c :: before) rest).or (assign? before.reverse (c :: rest)) := by
  have hsome : before.isEmpty = false := by simpa using hbefore
  rw [inRun?, if_neg (by simp [hc])]
  cases hlater : inRun? (c :: before) rest with
  | some found => rfl
  | none =>
    by_cases hequals : c = '='
    · subst hequals
      have hhere := assign?_append_equals blank_nil before.reverse rest
      rw [List.nil_append] at hhere
      simp [hsome, hhere]
    · simp [hequals, assign?_cons_of_ne hc hequals]

theorem inRun?_nil_cons {c : Char} (hc : isBlank c = false) (rest : Text) :
    inRun? [] (c :: rest) = inRun? [c] rest := by
  rw [inRun?, if_neg (by simp [hc])]
  cases inRun? [c] rest <;> simp

theorem equalsBehind_cons_iff {c : Char} (hc : isBlank c = false) {text after : Text} :
    EqualsBehind (c :: text) after ↔ c = '=' ∧ after = text ∧ Usable text := by
  constructor
  · rintro ⟨gap, hgap, hsplit, husable⟩
    cases gap with
    | nil =>
      obtain ⟨rfl, rfl⟩ := List.cons_eq_cons.mp hsplit
      exact ⟨rfl, rfl, husable⟩
    | cons blank gap =>
      obtain ⟨rfl, -⟩ := List.cons_eq_cons.mp hsplit
      rw [hgap c List.mem_cons_self] at hc
      cases hc
  · rintro ⟨rfl, rfl, husable⟩
    exact ⟨[], by decide, rfl, husable⟩

theorem equalsInside_cons_iff {c : Char} {run rest key tail : Text} :
    EqualsInside (c :: run) rest key tail ↔
      key = [] ∧ c = '=' ∧ tail = run ∧ Usable (run ++ rest) ∨
        ∃ later, key = c :: later ∧ EqualsInside run rest later tail := by
  constructor
  · rintro ⟨hsplit, husable⟩
    cases key with
    | nil =>
      obtain ⟨rfl, rfl⟩ := List.cons_eq_cons.mp hsplit
      exact Or.inl ⟨rfl, rfl, rfl, husable⟩
    | cons d later =>
      obtain ⟨rfl, rfl⟩ := List.cons_eq_cons.mp hsplit
      exact Or.inr ⟨later, rfl, rfl, husable⟩
  · rintro (⟨rfl, rfl, rfl, husable⟩ | ⟨later, rfl, rfl, husable⟩)
    · exact ⟨rfl, husable⟩
    · exact ⟨rfl, husable⟩

section Run

variable {before run rest : Text} (hbefore : before ≠ []) (hink : ∀ c ∈ run, isBlank c = false)
  (hblank : ∀ c ∈ rest.head?, isBlank c = true)
include hbefore hink hblank

theorem inRun?_eq_none_iff :
    inRun? before (run ++ rest) = none ↔ ∀ key tail, ¬ EqualsInside run rest key tail := by
  induction run generalizing before with
  | nil =>
    rw [List.nil_append, inRun?_of_head? hblank]
    simp [EqualsInside]
  | cons c run ih =>
    rw [List.forall_mem_cons] at hink
    rw [List.cons_append, inRun?_cons hink.1 hbefore, Option.or_eq_none_iff,
      ih (List.cons_ne_nil _ _) hink.2, assign?_eq_none_iff]
    simp only [equalsBehind_cons_iff hink.1, equalsInside_cons_iff]
    constructor
    · rintro ⟨hlater, hhere⟩ key tail (⟨-, hc, -, husable⟩ | ⟨later, -, hequals⟩)
      · exact hhere _ ⟨hc, rfl, husable⟩
      · exact hlater later tail hequals
    · intro hnone
      exact ⟨fun later tail hequals ↦ hnone _ tail (Or.inr ⟨later, rfl, hequals⟩),
        fun _ ⟨hc, _, husable⟩ ↦ hnone [] run (Or.inl ⟨rfl, hc, rfl, husable⟩)⟩

/-- Inside a run the last usable equals sign is read. -/
theorem inRun?_eq_some_iff {assignment : Assignment} {next : Text} :
    inRun? before (run ++ rest) = some (assignment, next) ↔ ∃ key tail value,
      LastInside run rest key tail ∧ tail ++ rest = value ++ ';' :: next ∧ ';' ∉ value ∧
        assignment = ⟨before.reverse ++ key, trimmed value⟩ := by
  induction run generalizing before with
  | nil =>
    rw [List.nil_append, inRun?_of_head? hblank]
    simp only [reduceCtorEq, false_iff]
    rintro ⟨key, tail, value, ⟨⟨hsplit, -⟩, -⟩, -⟩
    simp at hsplit
  | cons c run ih =>
    rw [List.forall_mem_cons] at hink
    rw [List.cons_append, inRun?_cons hink.1 hbefore, Option.or_eq_some_iff,
      ih (List.cons_ne_nil _ _) hink.2, inRun?_eq_none_iff (List.cons_ne_nil _ _) hink.2 hblank,
      assign?_eq_some_iff]
    simp only [equalsBehind_cons_iff hink.1]
    constructor
    · rintro (⟨key, tail, value, hlast, hsplit, hvalue, rfl⟩ |
        ⟨hnone, value, rfl, hvalue, rfl, hsplit, husable⟩)
      · refine ⟨c :: key, tail, value, ⟨?_, hlast.last⟩, hsplit, hvalue, by simp⟩
        exact equalsInside_cons_iff.mpr (Or.inr ⟨key, rfl, hlast.equals⟩)
      · refine ⟨[], run, value, ⟨⟨rfl, husable⟩, hnone⟩, hsplit.symm, hvalue, by simp⟩
    · rintro ⟨key, tail, value, ⟨hequals, hlast⟩, hsplit, hvalue, rfl⟩
      rcases equalsInside_cons_iff.mp hequals with
        ⟨rfl, hc, rfl, husable⟩ | ⟨later, rfl, hlater⟩
      · exact Or.inr ⟨hlast, value, by simp, hvalue, hc, hsplit.symm, husable⟩
      · exact Or.inl ⟨later, tail, value, ⟨hlater, hlast⟩, hsplit, hvalue, by simp⟩

end Run

/-- What is read of a run is what stands at the equals sign that it chooses. -/
theorem ofRun?_eq_some_iff {run rest next : Text} {assignment : Assignment}
    (hrun : MaximalRun run rest) : ofRun? (run ++ rest) = some (assignment, next) ↔ ∃ key value,
      Chosen run rest key (value ++ ';' :: next) ∧ ';' ∉ value ∧
        assignment = ⟨key, trimmed value⟩ := by
  have hink := hrun.isInk
  have hleft := hrun.isInk_head?
  obtain ⟨first, run, rfl⟩ := List.exists_cons_of_ne_nil hrun.ne_nil
  have hfirst := List.forall_mem_cons.mp hrun.ink
  rw [ofRun?, Option.orElse_eq_orElse, Option.orElse_eq_or, Option.or_eq_some_iff, afterRun?_eq,
    takeWhile_append_of_head? hink hleft, dropWhile_append_of_head? hink hleft,
    assign?_eq_some_iff, assign?_eq_none_iff, List.cons_append, inRun?_nil_cons hfirst.1,
    inRun?_eq_some_iff (List.cons_ne_nil _ _) hfirst.2 hrun.blank]
  constructor
  · rintro (⟨value, rfl, hvalue, hequals⟩ | ⟨hbehind, key, tail, value, hlast, hsplit, hvalue, rfl⟩)
    · exact ⟨_, value, .behind hequals, hvalue, rfl⟩
    · refine ⟨first :: key, value, hsplit ▸ .inside hbehind (List.cons_ne_nil _ _) ⟨?_, hlast.last⟩,
        hvalue, rfl⟩
      exact equalsInside_cons_iff.mpr (Or.inr ⟨key, rfl, hlast.equals⟩)
  · rintro ⟨key, value, hchosen, hvalue, rfl⟩
    generalize hafter : value ++ ';' :: next = after at hchosen
    cases hchosen with
    | behind hequals => exact Or.inl ⟨value, rfl, hvalue, hafter ▸ hequals⟩
    | @inside _ tail hbehind hne hlast =>
      rcases equalsInside_cons_iff.mp hlast.equals with ⟨rfl, -⟩ | ⟨later, rfl, hlater⟩
      · exact absurd rfl hne
      · exact Or.inr ⟨hbehind, later, tail, value, ⟨hlater, hlast.last⟩, hafter.symm, hvalue, rfl⟩

/-- A run that chooses no equals sign is read as nothing. -/
theorem ofRun?_eq_none_iff {run rest : Text} (hrun : MaximalRun run rest) :
    ofRun? (run ++ rest) = none ↔ ∀ key after, ¬ Chosen run rest key after := by
  rw [Option.eq_none_iff_forall_ne_some]
  constructor
  · intro hnone key after hchosen
    have husable : Usable after := by
      cases hchosen with
      | behind hequals => exact hequals.choose_spec.2.2
      | inside _ _ hlast => exact hlast.equals.2
    obtain ⟨value, next, -, hvalue, rfl⟩ := exists_value_of_usable husable
    exact hnone _ ((ofRun?_eq_some_iff hrun).mpr ⟨key, value, hchosen, hvalue, rfl⟩)
  · rintro hnot ⟨assignment, next⟩ hfound
    obtain ⟨key, value, hchosen, -⟩ := (ofRun?_eq_some_iff hrun).mp hfound
    exact hnot key _ hchosen

end Assignment

/-! ### The scan -/

theorem Scan.cons_of_isBlank {c : Char} (hc : isBlank c = true) {text : Text}
    {found : List Assignment} (hscan : Scan text found) : Scan (c :: text) found := by
  have hcons : ∀ {gap}, Blank gap → Blank (c :: gap) := fun hgap ↦
    List.forall_mem_cons.mpr ⟨hc, hgap⟩
  cases hscan with
  | done hgap => exact .done (hcons hgap)
  | passed hgap hrun hnone hscan => exact .passed (hcons hgap) hrun hnone hscan
  | assigned hgap hrun hchosen hvalue hscan =>
    exact .assigned (hcons hgap) hrun hchosen hvalue hscan

/-- A text that does not begin with a blank begins with a run. -/
theorem exists_maximalRun {c : Char} (hc : isBlank c = false) (rest : Text) :
    ∃ run, MaximalRun run (rest.dropWhile isInk) ∧ c :: rest = run ++ rest.dropWhile isInk := by
  have hink : ∀ d ∈ c :: rest.takeWhile isInk, isBlank d = false :=
    List.forall_mem_cons.mpr ⟨hc, fun _ ↦ isBlank_of_mem_takeWhile⟩
  refine ⟨c :: rest.takeWhile isInk,
    ⟨List.cons_ne_nil _ _, hink, isBlank_head?_dropWhile rest⟩, ?_⟩
  rw [List.cons_append, List.takeWhile_append_dropWhile]

theorem assignments_of_ofRun?_eq_none {c : Char} (hc : isBlank c = false) {rest : Text}
    (hnone : ofRun? (c :: rest) = none) :
    assignments (c :: rest) = assignments (rest.dropWhile isInk) := by
  rw [assignments, if_neg (by simp [hc])]
  split
  · rename_i hfound
    simp [hnone] at hfound
  · rfl

/-- What is read from a text can be scanned. -/
theorem scan_assignments (text : Text) : Scan text (assignments text) := by
  induction text using assignments.induct with
  | case1 =>
    rw [assignments]
    exact .done blank_nil
  | case2 c rest hc ih =>
    rw [assignments_cons_of_isBlank hc]
    exact ih.cons_of_isBlank hc
  | case3 c rest hc assignment after hfound ih =>
    rw [Bool.not_eq_true] at hc
    rw [assignments_of_ofRun? hc hfound]
    obtain ⟨run, hrun, hsplit⟩ := exists_maximalRun hc rest
    rw [hsplit] at hfound ⊢
    obtain ⟨key, value, hchosen, hvalue, rfl⟩ := (ofRun?_eq_some_iff hrun).mp hfound
    exact .assigned blank_nil hrun hchosen hvalue ih
  | case4 c rest hc hnone ih =>
    rw [Bool.not_eq_true] at hc
    rw [assignments_of_ofRun?_eq_none hc hnone]
    obtain ⟨run, hrun, hsplit⟩ := exists_maximalRun hc rest
    rw [hsplit] at hnone ⊢
    exact .passed blank_nil hrun ((ofRun?_eq_none_iff hrun).mp hnone) ih

theorem MaximalRun.assignments_passed {run rest : Text} (hrun : MaximalRun run rest)
    (hnone : ofRun? (run ++ rest) = none) : assignments (run ++ rest) = assignments rest := by
  have hink := hrun.isInk
  have hleft := hrun.isInk_head?
  obtain ⟨first, run, rfl⟩ := List.exists_cons_of_ne_nil hrun.ne_nil
  rw [List.forall_mem_cons] at hink
  have hskip := assignments_of_ofRun?_eq_none (hrun.ink first List.mem_cons_self) hnone
  rwa [List.append_eq, dropWhile_append_of_head? hink.2 hleft] at hskip

theorem MaximalRun.assignments_chosen {run rest key value next : Text} (hrun : MaximalRun run rest)
    (hchosen : Chosen run rest key (value ++ ';' :: next)) (hvalue : ';' ∉ value) :
    assignments (run ++ rest) = ⟨key, trimmed value⟩ :: assignments next := by
  have hfound := (ofRun?_eq_some_iff hrun).mpr ⟨key, value, hchosen, hvalue, rfl⟩
  obtain ⟨first, run, rfl⟩ := List.exists_cons_of_ne_nil hrun.ne_nil
  exact assignments_of_ofRun? (hrun.ink first List.mem_cons_self) hfound

/-- A text is scanned in one way, and what the scan finds is what is read. -/
theorem scan_iff {text : Text} {found : List Assignment} :
    Scan text found ↔ found = assignments text := by
  constructor
  · intro hscan
    induction hscan with
    | done hgap => exact (assignments_of_blank hgap).symm
    | passed hgap hrun hnone _ ih =>
      rw [assignments_append_of_blank hgap,
        hrun.assignments_passed ((ofRun?_eq_none_iff hrun).mpr hnone), ih]
    | assigned hgap hrun hchosen hvalue _ ih =>
      rw [assignments_append_of_blank hgap, hrun.assignments_chosen hchosen hvalue, ih]
  · rintro rfl
    exact scan_assignments text

end DevicetreeHeader.Source
