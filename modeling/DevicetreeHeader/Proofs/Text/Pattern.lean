import DevicetreeHeader.Text.Basic

/-!
# Patterns

A pattern is a sequence of parts, and a part takes characters of one class: a single one, any
number of them, or at least one. A part with a choice prefers to take more (`Part.takes`); it gives
characters back only if the rest of the pattern fails otherwise. `Pattern.ways` lists all ways to
match at one place in this order of preference. A search takes the first way at the leftmost place
that has one and goes on after the match (`Pattern.findAll`), so that no two matches overlap
(`pairwise_findAll`).

A place in a text is given by the text from there on.

The order of preference matters only where a part may have to give something back. A part followed
by a pattern that refuses its class (`Refuses`) never does: it takes its whole run (`ways_any`,
`ways_some`). For any other part the preferred way (`Pattern.first?`) is found by trying the
stretches of its class from the longest to the shortest (`first?_any_cons`, `first?_some_cons`).
-/

set_option autoImplicit false
set_option relaxedAutoImplicit false

namespace DevicetreeHeader.Text

/-- How many characters a part of a pattern takes. -/
inductive Extent
  | single
  | any
  | some
  deriving DecidableEq, Repr

/-- A part of a pattern: the class of its characters, how many of them it takes, and whether a
match reports them. -/
structure Part where
  accepts : Char → Bool
  extent : Extent
  captured : Bool := false

/-- The ways to cut a text after a stretch of one class, the longest stretch first. -/
def stretches (accepts : Char → Bool) : Text → List (Text × Text)
  | [] => [([], [])]
  | c :: rest =>
    if accepts c then
      (stretches accepts rest).map (fun cut ↦ (c :: cut.1, cut.2)) ++ [([], c :: rest)]
    else [([], c :: rest)]

/-- The texts that a part can take, each with what it leaves, in order of preference. -/
def Part.takes (part : Part) (text : Text) : List (Text × Text) :=
  match part.extent, text with
  | .any, text => stretches part.accepts text
  | _, [] => []
  | .single, c :: rest => if part.accepts c then [([c], rest)] else []
  | .some, c :: rest =>
    if part.accepts c then (stretches part.accepts rest).map fun cut ↦ (c :: cut.1, cut.2) else []

/-- A sequence of parts. -/
abbrev Pattern := List Part

/-- One way to match at a place: the captured texts, and the place where the match ends. -/
structure Way where
  groups : List Text
  rest : Text
  deriving DecidableEq, Repr

/-- The way that takes a text before another way. -/
def Way.after (part : Part) (taken : Text) (way : Way) : Way :=
  if part.captured then { way with groups := taken :: way.groups } else way

/-- A match: the place where it starts, and the way that was chosen there. -/
structure Match extends Way where
  start : Text
  deriving DecidableEq, Repr

namespace Pattern

/-- The ways in which a pattern matches at a place, in order of preference. -/
def ways : Pattern → Text → List Way
  | [], text => [⟨[], text⟩]
  | part :: parts, text =>
    (part.takes text).flatMap fun cut ↦ (ways parts cut.2).map (Way.after part cut.1)

/-- Whether every match takes at least one character. -/
def consumes (pattern : Pattern) : Bool :=
  pattern.any fun part ↦ part.extent ≠ .any

end Pattern

/-! ### What a way leaves -/

@[simp] theorem Way.rest_after (part : Part) (taken : Text) (way : Way) :
    (way.after part taken).rest = way.rest := by
  unfold Way.after
  split <;> rfl

theorem append_of_mem_stretches {accepts : Char → Bool} {text : Text} {cut : Text × Text}
    (hcut : cut ∈ stretches accepts text) : cut.1 ++ cut.2 = text := by
  induction text generalizing cut with
  | nil => simp_all [stretches]
  | cons c rest ih =>
    simp only [stretches] at hcut
    split at hcut
    · rcases List.mem_append.mp hcut with hcut | hcut
      · obtain ⟨shorter, hshorter, rfl⟩ := List.mem_map.mp hcut
        rw [List.cons_append, ih hshorter]
      · simp_all
    · simp_all

theorem Part.append_of_mem_takes {part : Part} {text : Text} {cut : Text × Text}
    (hcut : cut ∈ part.takes text) : cut.1 ++ cut.2 = text := by
  unfold Part.takes at hcut
  split at hcut
  · exact append_of_mem_stretches hcut
  · simp at hcut
  · split at hcut <;> simp_all
  · split at hcut
    · obtain ⟨shorter, hshorter, rfl⟩ := List.mem_map.mp hcut
      rw [List.cons_append, append_of_mem_stretches hshorter]
    · simp at hcut

theorem Part.ne_nil_of_mem_takes {part : Part} {text : Text} {cut : Text × Text}
    (hextent : part.extent ≠ .any) (hcut : cut ∈ part.takes text) : cut.1 ≠ [] := by
  unfold Part.takes at hcut
  split at hcut
  · exact absurd ‹_› hextent
  · simp at hcut
  · split at hcut <;> simp_all
  · split at hcut
    · obtain ⟨shorter, -, rfl⟩ := List.mem_map.mp hcut
      exact List.cons_ne_nil _ _
    · simp at hcut

theorem Way.after_uncaptured (accepts : Char → Bool) (extent : Extent) (taken : Text) :
    Way.after ⟨accepts, extent, false⟩ taken = id :=
  rfl

namespace Pattern

theorem mem_ways_cons {part : Part} {parts : Pattern} {text : Text} {way : Way} :
    way ∈ ways (part :: parts) text ↔
      ∃ cut ∈ part.takes text, ∃ later ∈ ways parts cut.2, later.after part cut.1 = way := by
  simp [ways]

theorem suffix_of_mem_ways {pattern : Pattern} {text : Text} {way : Way}
    (hway : way ∈ pattern.ways text) : way.rest <:+ text := by
  induction pattern generalizing text way with
  | nil =>
    rw [ways, List.mem_singleton] at hway
    exact hway ▸ List.suffix_rfl
  | cons part parts ih =>
    obtain ⟨cut, hcut, later, hlater, rfl⟩ := mem_ways_cons.mp hway
    rw [Way.rest_after, ← part.append_of_mem_takes hcut]
    exact (ih hlater).trans (List.suffix_append _ _)

theorem length_of_mem_ways {pattern : Pattern} (hconsumes : pattern.consumes = true) {text : Text}
    {way : Way} (hway : way ∈ pattern.ways text) : way.rest.length < text.length := by
  induction pattern generalizing text way with
  | nil => simp [consumes] at hconsumes
  | cons part parts ih =>
    obtain ⟨cut, hcut, later, hlater, rfl⟩ := mem_ways_cons.mp hway
    rw [Way.rest_after, ← part.append_of_mem_takes hcut, List.length_append]
    by_cases hextent : part.extent = .any
    · have hparts : consumes parts = true := by simpa [consumes, hextent] using hconsumes
      have hlength := ih hparts hlater
      omega
    · have hlength := (suffix_of_mem_ways hlater).length_le
      have htaken := List.length_pos_iff.mpr (part.ne_nil_of_mem_takes hextent hcut)
      omega

/-! ### Searching -/

/-- The matches of a pattern from a place on: the first way at the leftmost place that has one, and
the matches after it. -/
def findAll (pattern : Pattern) (hconsumes : pattern.consumes = true) : Text → List Match
  | [] => []
  | c :: rest =>
    match _h : (pattern.ways (c :: rest)).head? with
    | some way => ⟨way, c :: rest⟩ :: findAll pattern hconsumes way.rest
    | none => findAll pattern hconsumes rest
termination_by text => text.length
decreasing_by
  · exact length_of_mem_ways hconsumes (List.mem_of_mem_head? _h)
  · simp

variable {pattern : Pattern} {hconsumes : pattern.consumes = true}

theorem findAll_cons_of_head? {c : Char} {rest : Text} {way : Way}
    (hway : (pattern.ways (c :: rest)).head? = some way) :
    pattern.findAll hconsumes (c :: rest) =
      ⟨way, c :: rest⟩ :: pattern.findAll hconsumes way.rest := by
  rw [findAll]
  split
  · rename_i other hother
    rw [hother, Option.some.injEq] at hway
    rw [hway]
  · rename_i hnone
    simp [hnone] at hway

theorem findAll_cons_of_ways_eq_nil {c : Char} {rest : Text}
    (hways : pattern.ways (c :: rest) = []) :
    pattern.findAll hconsumes (c :: rest) = pattern.findAll hconsumes rest := by
  rw [findAll]
  split
  · rename_i way hway
    simp [hways] at hway
  · rfl

/-- A match starts at a place of the text and ends in the preferred way. -/
theorem mem_findAll {text : Text} {found : Match}
    (hfound : found ∈ pattern.findAll hconsumes text) :
    found.start <:+ text ∧ (pattern.ways found.start).head? = some found.toWay := by
  induction text using findAll.induct pattern hconsumes with
  | case1 => simp [findAll] at hfound
  | case2 c rest way hway ih =>
    rw [findAll_cons_of_head? hway, List.mem_cons] at hfound
    rcases hfound with rfl | hfound
    · exact ⟨List.suffix_rfl, hway⟩
    · have hsuffix := suffix_of_mem_ways (List.mem_of_mem_head? hway)
      exact ⟨(ih hfound).1.trans hsuffix, (ih hfound).2⟩
  | case3 c rest hnone ih =>
    rw [findAll_cons_of_ways_eq_nil (List.head?_eq_none_iff.mp hnone)] at hfound
    exact ⟨(ih hfound).1.trans (List.suffix_cons c rest), (ih hfound).2⟩

/-- A match takes at least one character, and the next one starts where it ends or later. -/
theorem pairwise_findAll (text : Text) : (pattern.findAll hconsumes text).Pairwise
    fun first second ↦ second.start <:+ first.rest ∧ second.rest.length < first.rest.length := by
  induction text using findAll.induct pattern hconsumes with
  | case1 => simp [findAll]
  | case2 c rest way hway ih =>
    rw [findAll_cons_of_head? hway, List.pairwise_cons]
    refine ⟨fun found hfound ↦ ?_, ih⟩
    obtain ⟨hstart, hfirst⟩ := mem_findAll hfound
    exact ⟨hstart, Nat.lt_of_lt_of_le
      (length_of_mem_ways hconsumes (List.mem_of_mem_head? hfirst)) hstart.length_le⟩
  | case3 c rest hnone ih =>
    rwa [findAll_cons_of_ways_eq_nil (List.head?_eq_none_iff.mp hnone)]

/-! ### Parts that never give anything back -/

/-- A pattern refuses a class if it matches nothing that begins with a character of the class. -/
def Refuses (pattern : Pattern) (accepts : Char → Bool) : Prop :=
  ∀ c rest, accepts c = true → pattern.ways (c :: rest) = []

/-- A choice among the stretches of a class, if only the longest one succeeds. -/
theorem flatMap_stretches {α : Type} {accepts : Char → Bool} (text : Text)
    (next : Text × Text → List α)
    (hnext : ∀ taken c rest, accepts c = true → next (taken, c :: rest) = []) :
    (stretches accepts text).flatMap next =
      next (text.takeWhile accepts, text.dropWhile accepts) := by
  induction text generalizing next with
  | nil => simp [stretches]
  | cons c rest ih =>
    by_cases hc : accepts c = true
    · have hshort := ih (fun cut ↦ next (c :: cut.1, cut.2)) fun taken ↦ hnext (c :: taken)
      simp [stretches, hc, List.flatMap_map, hshort, hnext [] c rest hc]
    · simp [stretches, hc]

variable {accepts : Char → Bool} {captured : Bool} {parts : Pattern} {text : Text}

theorem ways_single_cons (c : Char) (rest : Text) :
    ways (⟨accepts, .single, captured⟩ :: parts) (c :: rest) =
      if accepts c then (ways parts rest).map (Way.after ⟨accepts, .single, captured⟩ [c])
      else [] := by
  by_cases hc : accepts c = true <;> simp [ways, Part.takes, hc]

@[simp] theorem ways_single_nil : ways (⟨accepts, .single, captured⟩ :: parts) [] = [] :=
  rfl

@[simp] theorem ways_some_nil : ways (⟨accepts, .some, captured⟩ :: parts) [] = [] :=
  rfl

theorem ways_any (hrefuses : Refuses parts accepts) :
    ways (⟨accepts, .any, captured⟩ :: parts) text =
      (ways parts (text.dropWhile accepts)).map
        (Way.after ⟨accepts, .any, captured⟩ (text.takeWhile accepts)) := by
  have htakes : Part.takes ⟨accepts, .any, captured⟩ text = stretches accepts text := rfl
  rw [ways, htakes, flatMap_stretches]
  intro taken c rest hc
  rw [hrefuses c rest hc, List.map_nil]

theorem ways_some (hrefuses : Refuses parts accepts) {c : Char} {rest : Text}
    (hc : accepts c = true) :
    ways (⟨accepts, .some, captured⟩ :: parts) (c :: rest) =
      (ways parts (rest.dropWhile accepts)).map
        (Way.after ⟨accepts, .some, captured⟩ (c :: rest.takeWhile accepts)) := by
  have htakes : Part.takes ⟨accepts, .some, captured⟩ (c :: rest) =
      (stretches accepts rest).map fun cut ↦ (c :: cut.1, cut.2) := by
    simp [Part.takes, hc]
  rw [ways, htakes, List.flatMap_map, flatMap_stretches]
  intro taken d after hd
  rw [hrefuses d after hd, List.map_nil]

theorem ways_eq_nil_of_head? {extent : Extent} (hextent : extent ≠ .any)
    (hhead : ∀ c ∈ text.head?, accepts c = false) :
    ways (⟨accepts, extent, captured⟩ :: parts) text = [] := by
  cases text with
  | nil => cases extent <;> simp_all [ways, Part.takes]
  | cons c rest =>
    have hc : accepts c = false := hhead c rfl
    cases extent <;> simp_all [ways, Part.takes]

/-- A pattern whose first part takes characters of another class refuses a class. -/
theorem refuses_of_ne_any {other : Char → Bool} {extent : Extent} (hextent : extent ≠ .any)
    (hother : ∀ c, other c = true → accepts c = false) :
    Refuses (⟨accepts, extent, captured⟩ :: parts) other := by
  intro c rest hc
  refine ways_eq_nil_of_head? hextent fun d hd ↦ ?_
  rw [List.head?_cons, Option.mem_some_iff] at hd
  exact hd ▸ hother c hc

theorem refuses_any {other : Char → Bool} (hother : ∀ c, other c = true → accepts c = false)
    (hparts : Refuses parts other) : Refuses (⟨accepts, .any, captured⟩ :: parts) other := by
  intro c rest hc
  simp [ways, Part.takes, stretches, hother c hc, hparts c rest hc]

/-! ### The preferred way -/

/-- The way that a search takes at a place. -/
def first? (pattern : Pattern) (text : Text) : Option Way :=
  (pattern.ways text).head?

theorem first?_cons (part : Part) :
    first? (part :: parts) text =
      (part.takes text).findSome? fun cut ↦ (first? parts cut.2).map (Way.after part cut.1) := by
  simp only [first?, ways, List.head?_flatMap, List.head?_map]

/-- The longest stretch that succeeds is one that takes the first character, or else the empty
one. -/
theorem findSome?_stretches_cons {α : Type} (c : Char) (rest : Text)
    (next : Text × Text → Option α) :
    (stretches accepts (c :: rest)).findSome? next =
      if accepts c then
        ((stretches accepts rest).findSome? fun cut ↦ next (c :: cut.1, cut.2)).or
          (next ([], c :: rest))
      else next ([], c :: rest) := by
  by_cases hc : accepts c = true
  · simp [stretches, hc, List.findSome?_append, List.findSome?_map, Function.comp_def]
  · simp [stretches, hc]

/-- A part that may take any number of characters takes one more if the pattern then matches, and
gives it back otherwise. -/
theorem first?_any_cons (c : Char) (rest : Text) :
    first? (⟨accepts, .any, false⟩ :: parts) (c :: rest) =
      if accepts c then
        (first? (⟨accepts, .any, false⟩ :: parts) rest).or (first? parts (c :: rest))
      else first? parts (c :: rest) := by
  simp only [first?_cons, Part.takes, findSome?_stretches_cons, Way.after_uncaptured,
    Option.map_id_fun, id_eq]

theorem first?_some_cons {c : Char} (hc : accepts c = true) (rest : Text) :
    first? (⟨accepts, .some, captured⟩ :: parts) (c :: rest) =
      (stretches accepts rest).findSome? fun cut ↦
        (first? parts cut.2).map (Way.after ⟨accepts, .some, captured⟩ (c :: cut.1)) := by
  rw [first?_cons]
  simp [Part.takes, hc, List.findSome?_map, Function.comp_def]

end Pattern

end DevicetreeHeader.Text
