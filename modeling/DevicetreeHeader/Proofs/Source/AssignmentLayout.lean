import DevicetreeHeader.Proofs.Source.AssignmentScan

/-!
# Layouts of assignments

A plain assignment can be written with white space around its equals sign and after its semicolon,
or with none. White space anywhere in it is enough to end the run of its key, and it is read as it
was meant. Without any (`Compact`) its text is a part of the run that the next assignment begins
with, and since the last equals sign of a run is the one that is chosen, it becomes a part of the
key of that assignment. So `a=1;b=2;` assigns `2` to `a=1;b`.

`merged` is the list that comes of this: each compact assignment with another one behind it is put
in front of the next key. It is what is read (`assignments_written`). Hence one assignment is lost
for each compact one that is not the last, and the layout does not matter exactly if there is none.
-/

set_option autoImplicit false
set_option relaxedAutoImplicit false

namespace DevicetreeHeader.Source

open Text Assignment

/-- A plain assignment in some layout. The key and the value hold no equals sign and no semicolon,
and the value is given without the white space around it. -/
structure Written where
  key : Text
  value : Text
  beforeEquals : Text
  afterEquals : Text
  afterEnd : Text
  key_ne_nil : key ≠ []
  key_ink : ∀ c ∈ key, isBlank c = false
  key_plain : '=' ∉ key ∧ ';' ∉ key
  value_ne_nil : value ≠ []
  value_plain : '=' ∉ value ∧ ';' ∉ value
  value_head : ∀ c ∈ value.head?, isBlank c = false
  value_last : ∀ c ∈ value.getLast?, isBlank c = false
  blank_beforeEquals : Blank beforeEquals
  blank_afterEquals : Blank afterEquals
  blank_afterEnd : Blank afterEnd

namespace Written

variable (w : Written)

/-- What stands behind the equals sign. -/
def tail : Text :=
  w.afterEquals ++ (w.value ++ ';' :: w.afterEnd)

/-- The assignment as it stands in the source. -/
def text : Text :=
  w.key ++ (w.beforeEquals ++ '=' :: w.tail)

/-- The assignment that is meant. -/
def assignment : Assignment :=
  ⟨w.key, w.value⟩

/-- The assignment is written without any white space. -/
def Compact : Prop :=
  ∀ c ∈ w.text, isBlank c = false

instance : DecidablePred Compact := fun w ↦
  List.decidableBAll (fun c ↦ isBlank c = false) w.text

theorem equals_not_mem_tail : '=' ∉ w.tail := by
  have hafter := not_mem_of_blank w.blank_afterEquals (by decide : isBlank '=' = false)
  have hend := not_mem_of_blank w.blank_afterEnd (by decide : isBlank '=' = false)
  simp [tail, hafter, w.value_plain.1, hend]

/-- No equals sign comes first in the text, not even after white space. -/
theorem equals_not_behind (rest after : Text) : ¬ EqualsBehind (w.text ++ rest) after := by
  obtain ⟨c, key, hkey⟩ := List.exists_cons_of_ne_nil w.key_ne_nil
  have hc : c ∈ w.key := hkey ▸ List.mem_cons_self
  intro hequals
  rw [text, hkey, List.cons_append, List.cons_append,
    equalsBehind_cons_iff (w.key_ink c hc)] at hequals
  exact w.key_plain.1 (hequals.1 ▸ hc)

theorem trimmed_value : trimmed (w.afterEquals ++ w.value) = w.value := by
  have htrimmed := trimmed_between w.blank_afterEquals blank_nil w.value_ne_nil w.value_head
    w.value_last
  rwa [List.append_nil] at htrimmed

theorem semicolon_not_mem_value : ';' ∉ w.afterEquals ++ w.value := by
  have hafter := not_mem_of_blank w.blank_afterEquals (by decide : isBlank ';' = false)
  exact List.not_mem_append hafter w.value_plain.2

theorem afterEquals_value_ne_nil : w.afterEquals ++ w.value ≠ [] :=
  List.append_ne_nil_of_right_ne_nil _ w.value_ne_nil

theorem tail_append (rest : Text) :
    w.tail ++ rest = w.afterEquals ++ w.value ++ ';' :: (w.afterEnd ++ rest) := by
  simp [tail]

end Written

/-- What is read of assignments that are written one after the other, the first one with a text in
front of its key: a compact assignment is put in front of the next key. -/
def merged (front : Text) : List Written → List Assignment
  | [] => []
  | [w] => [⟨front ++ w.key, w.value⟩]
  | w :: next :: rest =>
    if w.Compact then merged (front ++ w.text) (next :: rest)
    else ⟨front ++ w.key, w.value⟩ :: merged [] (next :: rest)

/-! ### One assignment -/

section Reading

variable {front rest : Text} (w : Written)

/-- White space before the equals sign ends the run of the key. -/
theorem Written.assignments_spaced (hfront : ∀ c ∈ front, isBlank c = false)
    (hgap : w.beforeEquals ≠ []) :
    assignments (front ++ (w.text ++ rest)) = ⟨front ++ w.key, w.value⟩ :: assignments rest := by
  have hkey : ∀ c ∈ front ++ w.key, isBlank c = false :=
    List.forall_mem_append.mpr ⟨hfront, w.key_ink⟩
  have hne : front ++ w.key ≠ [] := List.append_ne_nil_of_right_ne_nil _ w.key_ne_nil
  have hread := assignments_append hne hkey w.blank_beforeEquals hgap
    w.afterEquals_value_ne_nil w.semicolon_not_mem_value (w.afterEnd ++ rest)
  rw [w.trimmed_value, assignments_append_of_blank w.blank_afterEnd] at hread
  simpa [Written.text, Written.tail] using hread

/-- The first equals sign behind a run that ends in the tail of an assignment is behind the tail. -/
theorem Written.not_equalsBehind_of_tail {run left : Text} (htail : w.tail = run ++ left)
    (hnext : ∀ after, ¬ EqualsBehind rest after) (after : Text) :
    ¬ EqualsBehind (left ++ rest) after := by
  rintro ⟨gap, hgap, hsplit, husable⟩
  have hleft : '=' ∉ left := by
    intro hmem
    exact w.equals_not_mem_tail (htail ▸ List.mem_append_right run hmem)
  rcases List.append_eq_append_iff.mp hsplit with ⟨more, rfl, hrest⟩ | ⟨more, hmore, hequals⟩
  · exact hnext after ⟨more, fun c hc ↦ hgap c (List.mem_append_right left hc), hrest, husable⟩
  · cases more with
    | nil => exact hnext after ⟨[], by decide, hequals.symm, husable⟩
    | cons c more =>
      obtain ⟨rfl, -⟩ := List.cons_eq_cons.mp hequals
      exact hleft (hmore ▸ List.mem_append_right gap List.mem_cons_self)

/-- Without white space before the equals sign the run of the key goes on into the tail. It ends
there, unless the assignment is compact and something follows. -/
theorem Written.exists_run_of_tail (hgap : w.beforeEquals = []) (hcompact : w.Compact → rest = []) :
    ∃ run left, w.tail = run ++ left ∧ (∀ c ∈ run, isBlank c = false) ∧
      ∀ c ∈ (left ++ rest).head?, isBlank c = true := by
  have hink : ∀ c ∈ w.tail.takeWhile isInk, isBlank c = false :=
    fun _ ↦ isBlank_of_mem_takeWhile
  have hsplit : w.tail = w.tail.takeWhile isInk ++ w.tail.dropWhile isInk :=
    List.takeWhile_append_dropWhile.symm
  refine ⟨_, _, hsplit, hink, ?_⟩
  cases hleft : w.tail.dropWhile isInk with
  | nil =>
    have hcompact' : w.Compact := by
      rw [Compact, text, hgap, hsplit, hleft]
      simp only [List.nil_append, List.append_nil, List.forall_mem_append, List.forall_mem_cons]
      exact ⟨w.key_ink, by decide, hink⟩
    simp [hcompact hcompact']
  | cons c left =>
    have hhead := isBlank_head?_dropWhile w.tail
    rw [hleft] at hhead
    exact hhead

/-- The equals sign of an assignment without white space before it is the last one of its run. -/
theorem Written.lastInside_of_tail {run left : Text} (htail : w.tail = run ++ left)
    (front rest : Text) : LastInside (front ++ w.key ++ '=' :: run) (left ++ rest) (front ++ w.key)
      run := by
  have husable : Usable (run ++ (left ++ rest)) := by
    rw [← List.append_assoc, ← htail, w.tail_append]
    exact usable_append w.afterEquals_value_ne_nil w.semicolon_not_mem_value _
  refine ⟨⟨rfl, husable⟩, ?_⟩
  rintro later tail ⟨hsplit, -⟩
  refine w.equals_not_mem_tail ?_
  rw [htail, hsplit]
  simp

/-- Without white space before the equals sign the run of the key ends in the tail. -/
theorem Written.assignments_joined (hfront : ∀ c ∈ front, isBlank c = false)
    (hgap : w.beforeEquals = []) (hcompact : w.Compact → rest = [])
    (hnext : ∀ after, ¬ EqualsBehind rest after) :
    assignments (front ++ (w.text ++ rest)) = ⟨front ++ w.key, w.value⟩ :: assignments rest := by
  obtain ⟨run, left, htail, hink, hblank⟩ := w.exists_run_of_tail hgap hcompact
  have hrun : MaximalRun (front ++ w.key ++ '=' :: run) (left ++ rest) := by
    refine ⟨by simp, ?_, hblank⟩
    simp only [List.forall_mem_append, List.forall_mem_cons]
    exact ⟨⟨hfront, w.key_ink⟩, by decide, hink⟩
  have hchosen := Chosen.inside (w.not_equalsBehind_of_tail htail hnext)
    (List.append_ne_nil_of_right_ne_nil front w.key_ne_nil) (w.lastInside_of_tail htail front rest)
  have htext : front ++ (w.text ++ rest) = front ++ w.key ++ '=' :: run ++ (left ++ rest) := by
    simp [Written.text, hgap, htail]
  rw [← List.append_assoc run, ← htail, w.tail_append] at hchosen
  rw [htext, hrun.assignments_chosen hchosen w.semicolon_not_mem_value, w.trimmed_value,
    assignments_append_of_blank w.blank_afterEnd]

/-- An assignment is read with its own value, unless it is compact and something follows. -/
theorem Written.assignments_append (hfront : ∀ c ∈ front, isBlank c = false)
    (hcompact : w.Compact → rest = []) (hnext : ∀ after, ¬ EqualsBehind rest after) :
    assignments (front ++ (w.text ++ rest)) = ⟨front ++ w.key, w.value⟩ :: assignments rest := by
  by_cases hgap : w.beforeEquals = []
  · exact w.assignments_joined hfront hgap hcompact hnext
  · exact w.assignments_spaced hfront hgap

end Reading

/-! ### Assignments one after the other -/

theorem not_equalsBehind_flatMap (written : List Written) (after : Text) :
    ¬ EqualsBehind (written.flatMap Written.text) after := by
  cases written with
  | nil => simp [EqualsBehind]
  | cons w rest => exact w.equals_not_behind (rest.flatMap Written.text) after

/-- The induction is on what stands behind the first assignment. If that one is compact then it
joins the text in front. -/
theorem assignments_append_written (written : List Written) (w : Written) {front : Text}
    (hfront : ∀ c ∈ front, isBlank c = false) :
    assignments (front ++ (w :: written).flatMap Written.text) = merged front (w :: written) := by
  induction written generalizing w front with
  | nil =>
    have hread : assignments (front ++ (w.text ++ [])) =
        ⟨front ++ w.key, w.value⟩ :: assignments [] :=
      w.assignments_append hfront (fun _ ↦ rfl) (not_equalsBehind_flatMap [])
    simpa [merged, assignments] using hread
  | cons next written ih =>
    rw [merged, List.flatMap_cons]
    split
    · rename_i hcompact
      rw [← ih next (List.forall_mem_append.mpr ⟨hfront, hcompact⟩), List.append_assoc]
    · rename_i hcompact
      rw [w.assignments_append hfront (fun h ↦ absurd h hcompact)
        (not_equalsBehind_flatMap (next :: written)),
        ← ih next (fun c hc ↦ absurd hc List.not_mem_nil), List.nil_append]

/-- What is read of assignments in arbitrary layouts. -/
theorem assignments_written (written : List Written) :
    assignments (written.flatMap Written.text) = merged [] written := by
  cases written with
  | nil => rw [List.flatMap_nil, assignments, merged]
  | cons w written =>
    exact assignments_append_written written w fun c hc ↦ absurd hc List.not_mem_nil

/-- One assignment is lost for each compact one with another one behind it. -/
theorem length_merged (front : Text) (written : List Written) :
    (merged front written).length + written.dropLast.countP (fun w ↦ decide w.Compact) =
      written.length := by
  induction front, written using merged.induct with
  | case1 front => simp [merged]
  | case2 front w => simp [merged]
  | case3 front w next rest hcompact ih =>
    rw [merged, if_pos hcompact, List.dropLast_cons_cons, List.countP_cons, if_pos (by simpa)]
    rw [List.length_cons, ← ih]
    omega
  | case4 front w next rest hcompact ih =>
    rw [merged, if_neg hcompact, List.dropLast_cons_cons, List.countP_cons, if_neg (by simpa)]
    rw [List.length_cons, List.length_cons, ← ih]
    omega

/-- Without a compact assignment in front of another one nothing is merged. -/
theorem merged_eq_map (written : List Written) (hspaced : ∀ w ∈ written.dropLast, ¬ w.Compact) :
    merged [] written = written.map Written.assignment := by
  induction written with
  | nil => simp [merged]
  | cons w written ih =>
    cases written with
    | nil => rfl
    | cons next rest =>
      rw [List.dropLast_cons_cons, List.forall_mem_cons] at hspaced
      rw [merged, if_neg hspaced.1, ih hspaced.2]
      rfl

/-- What is read of plain assignments one after the other, each in a layout of its own, how many
assignments that are, and which layouts they can have to be read as what they are. -/
theorem assignments_layouts (written : List Written) :
    assignments (written.flatMap Written.text) = merged [] written ∧
    (assignments (written.flatMap Written.text)).length +
        written.dropLast.countP (fun w ↦ decide w.Compact) = written.length ∧
    (assignments (written.flatMap Written.text) = written.map Written.assignment ↔
      ∀ w ∈ written.dropLast, ¬ w.Compact) := by
  have hlength := length_merged [] written
  rw [assignments_written]
  refine ⟨rfl, hlength, ?_, merged_eq_map written⟩
  intro hmap w hw hcompact
  have hcount : 0 < written.dropLast.countP fun w ↦ decide w.Compact :=
    List.countP_pos_iff.mpr ⟨w, hw, decide_eq_true hcompact⟩
  rw [hmap, List.length_map] at hlength
  omega

/-- The assignment of a word to a word without any white space. -/
def tight (key value : Text) (hkey : Word key) (hvalue : Word value) : Written where
  key := key
  value := value
  beforeEquals := []
  afterEquals := []
  afterEnd := []
  key_ne_nil := hkey.1
  key_ink c hc := isBlank_of_isWord (hkey.2 c hc)
  key_plain := ⟨not_mem_of_word hkey (by decide), not_mem_of_word hkey (by decide)⟩
  value_ne_nil := hvalue.1
  value_plain := ⟨not_mem_of_word hvalue (by decide), not_mem_of_word hvalue (by decide)⟩
  value_head c hc := isBlank_of_isWord (hvalue.2 c (List.mem_of_mem_head? hc))
  value_last c hc := isBlank_of_isWord (hvalue.2 c (List.mem_of_mem_getLast? hc))
  blank_beforeEquals := by decide
  blank_afterEquals := by decide
  blank_afterEnd := by decide

/-- Two assignments without white space, to `a` and to `b`. -/
def tightPair : List Written :=
  [tight "a".toList "1".toList (by decide) (by decide),
    tight "b".toList "2".toList (by decide) (by decide)]

/-- Two assignments without white space are read as one, and nothing is assigned to `b`. -/
theorem assignments_tightPair_ne :
    tightPair.flatMap Written.text = "a=1;b=2;".toList ∧
    tightPair.map Written.assignment =
      [⟨"a".toList, "1".toList⟩, ⟨"b".toList, "2".toList⟩] ∧
    assignments (tightPair.flatMap Written.text) = [⟨"a=1;b".toList, "2".toList⟩] ∧
    assignments (tightPair.flatMap Written.text) ≠ tightPair.map Written.assignment := by
  have hread : assignments (tightPair.flatMap Written.text) = [⟨"a=1;b".toList, "2".toList⟩] := by
    rw [assignments_written]
    rfl
  refine ⟨rfl, rfl, hread, ?_⟩
  rw [hread]
  decide

end DevicetreeHeader.Source
