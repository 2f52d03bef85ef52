import DevicetreeHeader.Proofs.Header.MacroSegment
import DevicetreeHeader.Proofs.Header.Partition
import Mathlib.Data.List.Count
import Mathlib.Data.List.NodupEquivFin

/-!
# Names that are defined twice

The definitions of a header stand in rows, one for each section. A name collides if it stands at two
places, in the same row or in different ones, and the collisions come in the order of the first
places of their names (`places_of_collisions`). They are found by counting: after any number of
definitions there is an entry for each name, in the order of first occurrence, with the number of
its definitions (`countName_tabulate`).

A macro segment is made character by character, so that it does not show where a label ends and a
key begins. Two definitions of nodes have the same name exactly if label, underscore and key have
the same spelling in capital letters with underscores for hyphens (`mem_collisions_ofNodes_iff`).
-/

set_option autoImplicit false
set_option relaxedAutoImplicit false

namespace DevicetreeHeader

/-! ### Places in rows -/

section Places

variable {α : Type}

/-- The item at a place: in the row with the first number, at the position with the second. -/
def cell? (rows : List (List α)) (place : Nat × Nat) : Option α :=
  rows[place.1]?.bind (·[place.2]?)

/-- A place comes before another: in an earlier row, or in the same row at an earlier position. -/
def Before (first second : Nat × Nat) : Prop :=
  first.1 < second.1 ∨ first.1 = second.1 ∧ first.2 < second.2

theorem mem_flatten_iff_cell? {rows : List (List α)} {item : α} :
    item ∈ rows.flatten ↔ ∃ place, cell? rows place = some item := by
  rw [List.mem_flatten]
  constructor
  · rintro ⟨row, hrow, hitem⟩
    obtain ⟨number, hnumber⟩ := List.mem_iff_getElem?.mp hrow
    obtain ⟨position, hposition⟩ := List.mem_iff_getElem?.mp hitem
    exact ⟨(number, position), by simp [cell?, hnumber, hposition]⟩
  · rintro ⟨place, hplace⟩
    obtain ⟨row, hrow, hitem⟩ := Option.bind_eq_some_iff.mp hplace
    exact ⟨row, List.mem_of_getElem? hrow, List.mem_of_getElem? hitem⟩

variable [BEq α] [LawfulBEq α]

theorem two_le_count_iff {row : List α} {item : α} :
    2 ≤ row.count item ↔ ∃ first second : Nat,
      first ≠ second ∧ row[first]? = some item ∧ row[second]? = some item := by
  have hduplicate : 2 ≤ row.count item ↔ List.Duplicate item row := by
    rw [← List.replicate_sublist_iff, List.duplicate_iff_sublist]
    rfl
  rw [hduplicate, List.duplicate_iff_exists_distinct_get]
  constructor
  · rintro ⟨first, second, hlt, hfirst, hsecond⟩
    refine ⟨first, second, by omega, ?_, ?_⟩
    · rw [hfirst, List.get_eq_getElem, List.getElem?_eq_getElem]
    · rw [hsecond, List.get_eq_getElem, List.getElem?_eq_getElem]
  · rintro ⟨first, second, hne, hfirst, hsecond⟩
    obtain ⟨hfirst, heq⟩ := List.getElem?_eq_some_iff.mp hfirst
    obtain ⟨hsecond, hsame⟩ := List.getElem?_eq_some_iff.mp hsecond
    rcases Nat.lt_or_gt_of_ne hne with hlt | hlt
    · exact ⟨⟨first, hfirst⟩, ⟨second, hsecond⟩, hlt, heq.symm, hsame.symm⟩
    · exact ⟨⟨second, hsecond⟩, ⟨first, hfirst⟩, hlt, hsame.symm, heq.symm⟩

/-- An item occurs twice in rows if it stands at two places. -/
theorem two_le_count_flatten_iff {rows : List (List α)} {item : α} :
    2 ≤ rows.flatten.count item ↔
      ∃ first second, first ≠ second ∧ cell? rows first = some item ∧
        cell? rows second = some item := by
  induction rows with
  | nil => simp [cell?]
  | cons row rows ih =>
    rw [List.flatten_cons, List.count_append]
    constructor
    · intro htwice
      rcases (by omega : 2 ≤ row.count item ∨ 2 ≤ rows.flatten.count item ∨
        1 ≤ row.count item ∧ 1 ≤ rows.flatten.count item) with hrow | hrows | ⟨hrow, hrows⟩
      · obtain ⟨first, second, hne, hfirst, hsecond⟩ := two_le_count_iff.mp hrow
        exact ⟨(0, first), (0, second), by simpa using hne, hfirst, hsecond⟩
      · obtain ⟨first, second, hne, hfirst, hsecond⟩ := ih.mp hrows
        refine ⟨(first.1 + 1, first.2), (second.1 + 1, second.2), ?_, hfirst, hsecond⟩
        exact fun heq ↦ hne (by simpa [Prod.ext_iff] using heq)
      · obtain ⟨first, hfirst⟩ := List.mem_iff_getElem?.mp (List.one_le_count_iff.mp hrow)
        obtain ⟨second, hsecond⟩ := mem_flatten_iff_cell?.mp (List.one_le_count_iff.mp hrows)
        exact ⟨(0, first), (second.1 + 1, second.2), by simp, hfirst, hsecond⟩
    · have hrow : ∀ position : Nat, row[position]? = some item → 1 ≤ row.count item :=
        fun _ hposition ↦ List.one_le_count_iff.mpr (List.mem_of_getElem? hposition)
      have hrows : ∀ place, cell? rows place = some item → 1 ≤ rows.flatten.count item :=
        fun place hplace ↦ List.one_le_count_iff.mpr (mem_flatten_iff_cell?.mpr ⟨place, hplace⟩)
      rintro ⟨⟨_ | number, first⟩, ⟨_ | other, second⟩, hne, hfirst, hsecond⟩
      · have htwice := two_le_count_iff.mpr ⟨first, second, by simpa using hne, hfirst, hsecond⟩
        omega
      · have hhere := hrow first hfirst
        have hlater := hrows (other, second) hsecond
        omega
      · have hlater := hrows (number, first) hfirst
        have hhere := hrow second hsecond
        omega
      · have htwice := ih.mpr
          ⟨(number, first), (other, second), by simpa using hne, hfirst, hsecond⟩
        omega

theorem idxOf_le_of_getElem? {row : List α} {item : α} {position : Nat}
    (hitem : row[position]? = some item) : row.idxOf item ≤ position := by
  have hmem : item ∈ row.take (position + 1) :=
    List.mem_of_getElem? (by rw [List.getElem?_take_of_lt (Nat.lt_succ_self position), hitem])
  exact Nat.le_of_lt_succ
    ((List.mem_take_iff_idxOf_lt (List.mem_of_getElem? hitem)).mp hmem)

/-- If an item occurs earlier than another, its first place is before all places of the other. -/
theorem exists_before_of_idxOf_lt {rows : List (List α)} {item other : α}
    (hlt : rows.flatten.idxOf item < rows.flatten.idxOf other) :
    ∃ first, cell? rows first = some item ∧
      ∀ second, cell? rows second = some other → Before first second := by
  induction rows with
  | nil => simp at hlt
  | cons row rows ih =>
    rw [List.flatten_cons] at hlt
    by_cases hitem : item ∈ row
    · refine ⟨(0, row.idxOf item), List.getElem?_idxOf hitem, ?_⟩
      rintro ⟨_ | number, second⟩ hsecond
      · have hother := List.mem_of_getElem? hsecond
        rw [List.idxOf_append_of_mem hitem, List.idxOf_append_of_mem hother] at hlt
        exact Or.inr ⟨rfl, Nat.lt_of_lt_of_le hlt (idxOf_le_of_getElem? hsecond)⟩
      · exact Or.inl (Nat.succ_pos number)
    · have hother : other ∉ row := by
        intro hmem
        have hposition := List.idxOf_lt_length_of_mem hmem
        rw [List.idxOf_append_of_notMem hitem, List.idxOf_append_of_mem hmem] at hlt
        omega
      rw [List.idxOf_append_of_notMem hitem, List.idxOf_append_of_notMem hother] at hlt
      obtain ⟨first, hfirst, hbefore⟩ := ih (by omega)
      refine ⟨(first.1 + 1, first.2), hfirst, ?_⟩
      rintro ⟨_ | number, second⟩ hsecond
      · exact absurd (List.mem_of_getElem? hsecond) hother
      · rcases hbefore (number, second) hsecond with hearlier | ⟨hsame, hearlier⟩
        · exact Or.inl (Nat.succ_lt_succ hearlier)
        · exact Or.inr ⟨congrArg (· + 1) hsame, hearlier⟩

end Places

/-! ### Segments of joined names -/

theorem macroSegment_append (first second : Text) :
    macroSegment (first ++ second) = macroSegment first ++ macroSegment second := by
  rw [macroSegment, Text.upper, List.flatMap_append, List.map_append]
  rfl

/-- A label and a key make the segment of the label, an underscore and the key. -/
theorem macroSegment_joined (label key : Text) :
    macroSegment (label ++ '_' :: key) = macroSegment label ++ '_' :: macroSegment key := by
  have hunderscore : macroSegment ['_'] = ['_'] := by decide
  rw [← List.singleton_append, macroSegment_append, macroSegment_append, hunderscore,
    List.singleton_append]

namespace Header

/-! ### Collisions -/

/-- The names in a header, in a row for each section. -/
def nameRows (header : Header) : List (List Text) :=
  header.sections.map fun part ↦ part.definitions.map Definition.name

/-- Label, underscore and key of each property in capital letters with underscores for hyphens, in a
row for each node. -/
def spellingRows (nodes : List Node) : List (List Text) :=
  nodes.map fun node ↦ node.properties.map fun property ↦
    (node.label ++ '_' :: property.1).map fun c ↦ if c = '-' then '_' else c.toUpper

/-- Nodes with labels and keys in ASCII. -/
def Ascii (nodes : List Node) : Prop :=
  ∀ node ∈ nodes, (∀ c ∈ node.label, c.toNat < 0x80) ∧
    ∀ property ∈ node.properties, ∀ c ∈ property.1, c.toNat < 0x80

theorem names_eq_flatten (header : Header) : header.names = header.nameRows.flatten :=
  List.flatMap_def

/-- Counting one more definition leads from the counts of some names to those of one name more. -/
theorem countName_tabulate (names : List Text) (name : Text) :
    countName (.tabulate names.eraseDups names.count) name =
      .tabulate (names ++ [name]).eraseDups (names ++ [name]).count := by
  have hold : ((Keyed.tabulate names.eraseDups names.count).get? name).getD 0 =
      names.count name := by
    rw [Keyed.get?_tabulate]
    split
    · rfl
    · rename_i hnew
      rw [List.mem_eraseDups] at hnew
      rw [List.count_eq_zero.mpr hnew, Option.getD_none]
  have hcounts : (names ++ [name]).count = fun other ↦
      if other = name then names.count name + 1 else names.count other := by
    funext other
    rw [List.count_append, List.count_singleton]
    by_cases hother : other = name
    · simp [hother]
    · simp [hother, Ne.symm hother]
  rw [countName, hold, Keyed.put_tabulate (nodup_eraseDups names), eraseDups_concat, hcounts]

theorem foldl_countName_tabulate (done names : List Text) :
    names.foldl countName (.tabulate done.eraseDups done.count) =
      .tabulate (done ++ names).eraseDups (done ++ names).count := by
  induction names generalizing done with
  | nil => rw [List.append_nil, List.foldl_nil]
  | cons name names ih =>
    rw [List.foldl_cons, countName_tabulate, ih, List.append_assoc, List.singleton_append]

/-- The collisions are the first occurrences of the names that occur more than once. -/
theorem collisions_eq_filter (header : Header) : header.collisions =
    header.names.eraseDups.filter fun name ↦ 1 < header.names.count name := by
  have hcounts : header.names.foldl countName [] =
      .tabulate header.names.eraseDups header.names.count :=
    foldl_countName_tabulate [] header.names
  rw [collisions, hcounts, Keyed.tabulate, List.filterMap_map, ← List.filterMap_eq_filter]
  refine List.filterMap_congr fun name _ ↦ ?_
  simp [Option.guard]

theorem mem_collisions_iff_count {header : Header} {name : Text} :
    name ∈ header.collisions ↔ 2 ≤ header.names.count name := by
  rw [collisions_eq_filter, List.mem_filter, List.mem_eraseDups, decide_eq_true_eq]
  constructor
  · exact And.right
  · intro htwice
    exact ⟨List.count_pos_iff.mp (by omega), htwice⟩

/-- The collisions are the names that are defined at two places, each once and in the order of their
first places. -/
theorem places_of_collisions (header : Header) :
    header.collisions.Nodup ∧
    (∀ name, name ∈ header.collisions ↔ ∃ first second, first ≠ second ∧
      cell? header.nameRows first = some name ∧ cell? header.nameRows second = some name) ∧
    header.collisions.Pairwise fun name later ↦ ∃ first,
      cell? header.nameRows first = some name ∧
        ∀ second, cell? header.nameRows second = some later → Before first second := by
  refine ⟨?_, fun name ↦ ?_, ?_⟩
  · rw [collisions_eq_filter]
    exact (nodup_eraseDups _).filter _
  · rw [mem_collisions_iff_count, names_eq_flatten, two_le_count_flatten_iff]
  · rw [collisions_eq_filter]
    refine ((pairwise_idxOf_eraseDups header.names).filter _).imp fun hlt ↦ ?_
    rw [names_eq_flatten] at hlt
    exact exists_before_of_idxOf_lt hlt

variable (options : Options)

/-- The names in a header are those that its nodes define. -/
theorem perm_names (nodes : List Node) : (ofNodes options nodes).names.Perm
    ((nodes.flatMap fun node ↦ node.properties.map fun property ↦
      macroSegment (node.label ++ '_' :: property.1)).map (options.macroPrefix ++ '_' :: ·)) := by
  have hnames : (ofNodes options nodes).names =
      ((ofNodes options nodes).sections.flatMap Section.definitions).map Definition.name := by
    rw [names, List.map_flatMap]
  rw [hnames]
  refine ((perm_definitions options nodes).map _).trans (List.Perm.of_eq ?_)
  rw [List.map_flatMap, List.map_flatMap]
  refine List.flatMap_congr fun node _ ↦ ?_
  rw [Definition.ofNode, List.map_map, List.map_map]
  refine List.map_congr_left fun property _ ↦ ?_
  show options.macroPrefix ++ '_' :: macroSegment node.label ++ '_' :: macroSegment property.1 = _
  rw [Function.comp_apply, macroSegment_joined]
  simp

theorem spellingRows_of_ascii {nodes : List Node} (hnodes : Ascii nodes) :
    (spellingRows nodes).flatten = nodes.flatMap fun node ↦ node.properties.map fun property ↦
      macroSegment (node.label ++ '_' :: property.1) := by
  rw [spellingRows, ← List.flatMap_def]
  refine List.flatMap_congr fun node hnode ↦ List.map_congr_left fun property hproperty ↦ ?_
  rw [macroSegment_of_ascii]
  intro c hc
  rcases List.mem_append.mp hc with hlabel | hkey
  · exact (hnodes node hnode).1 c hlabel
  · rcases List.mem_cons.mp hkey with rfl | hkey
    · decide
    · exact (hnodes node hnode).2 property hproperty c hkey

/-- Nodes define a name twice exactly if two of their properties have the same spelling. -/
theorem mem_collisions_ofNodes_iff {nodes : List Node} (hnodes : Ascii nodes) {name : Text} :
    name ∈ (ofNodes options nodes).collisions ↔
      ∃ spelling, name = options.macroPrefix ++ '_' :: spelling ∧
        ∃ first second, first ≠ second ∧ cell? (spellingRows nodes) first = some spelling ∧
          cell? (spellingRows nodes) second = some spelling := by
  have hinjective : Function.Injective (options.macroPrefix ++ '_' :: ·) := fun spelling other heq ↦
    by simpa using heq
  rw [mem_collisions_iff_count, (perm_names options nodes).count_eq,
    ← spellingRows_of_ascii hnodes]
  simp only [← two_le_count_flatten_iff]
  constructor
  · intro htwice
    obtain ⟨spelling, -, rfl⟩ := List.mem_map.mp (List.count_pos_iff.mp (by omega :
      0 < ((spellingRows nodes).flatten.map (options.macroPrefix ++ '_' :: ·)).count name))
    rw [List.count_map_of_injective _ _ hinjective] at htwice
    exact ⟨spelling, rfl, htwice⟩
  · rintro ⟨spelling, rfl, htwice⟩
    rwa [List.count_map_of_injective _ _ hinjective]

/-- The collisions of a header are the names that it defines at two places, in one section or in
two, each once and in the order of their first definitions. In the header of nodes with names in
ASCII they are the names of the properties that share a spelling, wherever these stand and wherever
their labels end. -/
theorem collisions_are_shared_names :
    (∀ header : Header,
      header.collisions.Nodup ∧
      (∀ name, name ∈ header.collisions ↔ ∃ first second, first ≠ second ∧
        cell? header.nameRows first = some name ∧ cell? header.nameRows second = some name) ∧
      header.collisions.Pairwise fun name later ↦ ∃ first,
        cell? header.nameRows first = some name ∧
          ∀ second, cell? header.nameRows second = some later → Before first second) ∧
    ∀ (options : Options) (nodes : List Node), Ascii nodes →
      ∀ name, name ∈ (ofNodes options nodes).collisions ↔
        ∃ spelling, name = options.macroPrefix ++ '_' :: spelling ∧
          ∃ first second, first ≠ second ∧ cell? (spellingRows nodes) first = some spelling ∧
            cell? (spellingRows nodes) second = some spelling :=
  ⟨places_of_collisions, fun options _ hnodes _ ↦ mem_collisions_ofNodes_iff options hnodes⟩

/-- Two properties of different nodes and types whose labels end at different characters. -/
def clashingNodes : List Node :=
  [⟨['a'], ['t'], [(['x', '-', 'y'], .integer 1), (['z'], .integer 2)]⟩,
    ⟨['A', '_', 'x'], ['u'], [(['Y'], .integer 3)]⟩]

theorem collisions_clashingNodes :
    Ascii clashingNodes ∧ "DT_A_X_Y".toList ∈ (ofNodes {} clashingNodes).collisions := by
  have hnodes : Ascii clashingNodes := by
    simp only [Ascii, clashingNodes, List.forall_mem_cons]
    simp
  refine ⟨hnodes, (collisions_are_shared_names.2 {} clashingNodes hnodes _).mpr ?_⟩
  exact ⟨"A_X_Y".toList, by decide, (0, 0), (1, 0), by decide, by decide, by decide⟩

end Header

end DevicetreeHeader
