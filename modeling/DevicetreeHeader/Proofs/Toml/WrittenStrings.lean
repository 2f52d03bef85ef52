import DevicetreeHeader.Proofs.Text.Runs
import DevicetreeHeader.Toml.Document

/-!
# Strings written and read

A string is written with an escape for each character that may not stand in it as itself, and each
character is read back on its own, whatever follows (`basic?_writtenChar_append`). So a string of
any content ends where its closing quote was written; only behind an empty one a third quote would
make a different opening (`quotation?_written_append`).

A line that assigns a string to a key without quotes is one statement (`statement?_stringLine`), and
a document of such lines has the items that they assign, if no key is assigned twice
(`items?_stringLines`).
-/

set_option autoImplicit false
set_option relaxedAutoImplicit false

namespace DevicetreeHeader.Toml

/-! ### Strings -/

theorem hexDigit?_digitChar : ∀ digit < 16, hexDigit? digit.digitChar = some digit := by
  decide

/-- A character of ASCII has the code point of its two hexadecimal digits behind two zeros. -/
theorem codePoint?_digits {c : Char} (hc : c.toNat < 0x80) :
    codePoint? ['0', '0', (c.toNat / 16).digitChar, (c.toNat % 16).digitChar] = some c := by
  have hzero : hexDigit? '0' = some 0 := by decide
  have hhigh := hexDigit?_digitChar (c.toNat / 16) (by omega)
  have hlow := hexDigit?_digitChar (c.toNat % 16) (by omega)
  have hdigits : ['0', '0', (c.toNat / 16).digitChar, (c.toNat % 16).digitChar].mapM hexDigit? =
      some [0, 0, c.toNat / 16, c.toNat % 16] := by
    simp [List.mapM_cons, hzero, hhigh, hlow]
  have hpoint : [0, 0, c.toNat / 16, c.toNat % 16].foldl (fun value digit ↦ 16 * value + digit) 0 =
      c.toNat := by
    simp only [List.foldl_cons, List.foldl_nil]
    omega
  have hvalid : c.toNat.isValidChar := c.valid
  rw [codePoint?, hdigits, Option.bind_eq_bind, Option.bind_some, hpoint, if_pos hvalid,
    Char.ofNat_toNat]

/-- What is written by its code point is a character of ASCII. -/
theorem toNat_lt_of_control {c : Char} (hc : (isPlain c && c != '\t') = false) :
    c.toNat < 0x80 := by
  by_cases htab : c = '\t'
  · subst htab
    decide
  · have hpoint : 0x20 ≤ c.toNat → c.toNat = 0x7F := by simpa [isPlain, htab] using hc
    omega

theorem basic?_cons {c : Char} (hquote : c ≠ '"') (hescape : c ≠ '\\') (hplain : isPlain c = true)
    (rest : Text) : basic? (c :: rest) = prepend c <$> basic? rest := by
  rw [basic?, if_pos hplain]
  · exact hquote
  · exact fun _ _ _ _ _ hc ↦ absurd hc hescape
  · exact fun _ _ _ _ _ _ _ _ _ hc ↦ absurd hc hescape
  · exact fun _ _ hc ↦ absurd hc hescape

theorem basic?_writtenChar_append (c : Char) (rest : Text) :
    basic? (written.writtenChar c ++ rest) = prepend c <$> basic? rest := by
  rw [written.writtenChar]
  split
  · rename_i hescaped
    obtain rfl | rfl := hescaped
    · rfl
    · rfl
  · rename_i hfree
    rw [not_or] at hfree
    split
    · rename_i hplain
      rw [Bool.and_eq_true] at hplain
      rw [List.singleton_append, basic?_cons hfree.1 hfree.2 hplain.1]
    · rename_i hcontrol
      rw [Bool.not_eq_true] at hcontrol
      show basic? ('\\' :: 'u' :: '0' :: '0' :: _ :: _ :: rest) = _
      rw [basic?, codePoint?_digits (toNat_lt_of_control hcontrol)]
      rfl

/-- The content of a string is read up to its closing quote, whatever follows. -/
theorem basic?_flatMap_writtenChar (content rest : Text) :
    basic? (content.flatMap written.writtenChar ++ '"' :: rest) = some (content, rest) := by
  induction content with
  | nil => rfl
  | cons c content ih =>
    rw [List.flatMap_cons, List.append_assoc, basic?_writtenChar_append, ih]
    rfl

/-- Whether a character is written without an escape: no quote, no backslash and no control
character of ASCII is. -/
def isUnescaped (c : Char) : Bool :=
  isPlain c && c != '\t' && c != '"' && c != '\\'

theorem written_of_unescaped {content : Text} (hcontent : ∀ c ∈ content, isUnescaped c = true) :
    written content = '"' :: content ++ ['"'] := by
  have hchars : content.flatMap written.writtenChar = content := by
    induction content with
    | nil => rfl
    | cons c content ih =>
      rw [List.forall_mem_cons] at hcontent
      have hc := hcontent.1
      simp only [isUnescaped, Bool.and_eq_true, bne_iff_ne, ne_eq] at hc
      have hwritten : written.writtenChar c = [c] := by
        simp [written.writtenChar, hc]
      rw [List.flatMap_cons, hwritten, ih hcontent.2, List.singleton_append]
  rw [written, hchars]

theorem exists_writtenChar_eq_cons (c : Char) :
    ∃ first others, written.writtenChar c = first :: others ∧ first ≠ '"' := by
  rw [written.writtenChar]
  split
  · exact ⟨_, _, rfl, by decide⟩
  · rename_i hfree
    split
    · exact ⟨_, _, rfl, (not_or.mp hfree).1⟩
    · exact ⟨_, _, rfl, by decide⟩

/-- A string is read as it was written. Behind an empty one no third quote may stand. -/
theorem quotation?_written_append (content : Text) {rest : Text} (hrest : rest.head? ≠ some '"') :
    quotation? (written content ++ rest) = some (content, rest) := by
  have hsingle : ∀ after,
      content.flatMap written.writtenChar ++ '"' :: rest ≠ '"' :: '"' :: after := by
    intro after hafter
    cases content with
    | nil => exact hrest (by rw [(List.cons.inj hafter).2, List.head?_cons])
    | cons c content =>
      obtain ⟨first, others, hwritten, hfirst⟩ := exists_writtenChar_eq_cons c
      rw [List.flatMap_cons, hwritten] at hafter
      exact hfirst (List.cons.inj hafter).1
  rw [written, List.cons_append, List.cons_append, List.append_assoc, List.singleton_append,
    quotation?.eq_2 _ hsingle, basic?_flatMap_writtenChar]

theorem value?_written_append (depth : Nat) (content : Text) {rest : Text}
    (hrest : rest.head? ≠ some '"') :
    value? depth (written content ++ rest) = some (.string content, rest) := by
  unfold value?
  rw [quotation?_written_append content hrest]

/-! ### Lines that assign strings -/

/-- A key that needs no quotes. -/
def Bare (key : Text) : Prop :=
  key ≠ [] ∧ ∀ c ∈ key, isBare c = true

/-- A line that assigns a string to a key. -/
def stringLine (key content : Text) : Text :=
  key ++ " = ".toList ++ written content ++ ['\n']

/-- Lines that assign strings to keys. -/
def stringLines (entries : Keyed Text) : Text :=
  entries.flatMap fun entry ↦ stringLine entry.1 entry.2

section Keys

variable {key rest : Text}

theorem ne_of_isBare {c other : Char} (hc : isBare c = true) (hother : isBare other = false) :
    c ≠ other := by
  rintro rfl
  rw [hc] at hother
  cases hother

/-- A bare key starts with no character outside its class. -/
theorem Bare.exists_eq_cons (hkey : Bare key) :
    ∃ c others, key = c :: others ∧ ∀ other, isBare other = false → c ≠ other := by
  obtain ⟨hne, hbare⟩ := hkey
  obtain ⟨c, others, rfl⟩ := List.exists_cons_of_ne_nil hne
  exact ⟨c, others, rfl, fun other ↦ ne_of_isBare (hbare c List.mem_cons_self)⟩

theorem simpleKey?_append (hkey : Bare key) (hrest : ∀ c ∈ rest.head?, isBare c = false) :
    simpleKey? (key ++ rest) = some (key, rest) := by
  have htake := Text.takeWhile_append_of_head? hkey.2 hrest
  have hdrop := Text.dropWhile_append_of_head? hkey.2 hrest
  obtain ⟨c, others, rfl, hc⟩ := hkey.exists_eq_cons
  rw [simpleKey?.eq_3, htake, hdrop]
  · rintro after hafter
    exact hc '"' (by decide) (List.cons.inj hafter).1
  · rintro after hafter
    exact hc '\'' (by decide) (List.cons.inj hafter).1

theorem skipSpaces_append (hkey : Bare key) : skipSpaces (key ++ rest) = key ++ rest := by
  obtain ⟨c, others, rfl, hc⟩ := hkey.exists_eq_cons
  have hspace : isSpace c = false := by
    simp [isSpace, hc ' ' (by decide), hc '\t' (by decide)]
  exact List.dropWhile_cons_of_neg (by simp [hspace])

theorem dottedKey?_append (hkey : Bare key) :
    dottedKey? (key ++ ' ' :: '=' :: rest) = some ([key], '=' :: rest) := by
  have hsimple : simpleKey? (key ++ ' ' :: '=' :: rest) = some (key, ' ' :: '=' :: rest) :=
    simpleKey?_append hkey (Text.head?_cons_of_eq_false (by decide))
  have hjoined : joinedKeys? (key ++ ' ' :: '=' :: rest) = some ([key], '=' :: rest) := by
    rw [joinedKeys?, skipSpaces_append hkey, hsimple]
    rfl
  rw [dottedKey?, hjoined]
  rfl

/-- A line that starts with a bare key can only assign a value. -/
theorem statement?_append (hkey : Bare key) : statement? (key ++ rest) = do
    let (path, rest) ← dottedKey? (key ++ rest)
    let (item, rest) ← value? deepest (skipSpaces (← symbol? '=' rest))
    return (.assign path item, rest) := by
  rw [statement?, skipSpaces_append hkey]
  obtain ⟨c, others, rfl, hc⟩ := hkey.exists_eq_cons
  have hmarks : ¬ (c = '#' ∨ c = '\n' ∨ c = '\r') := by
    simp [hc '#' (by decide), hc '\n' (by decide), hc '\r' (by decide)]
  rw [List.cons_append]
  split
  · rename_i hstart
    exact absurd (List.cons.inj hstart).1 (hc '[' (by decide))
  · rename_i hstart
    exact absurd (List.cons.inj hstart).1 (hc '[' (by decide))
  · rename_i hstart
    cases hstart
  · rename_i hstart
    obtain ⟨rfl, rfl⟩ := List.cons.inj hstart
    rw [if_neg hmarks]

theorem statement?_stringLine (hkey : Bare key) (content rest : Text) :
    statement? (stringLine key content ++ rest) =
      some (.assign [key] (.string content), '\n' :: rest) := by
  have hline : stringLine key content ++ rest =
      key ++ ' ' :: '=' :: ' ' :: (written content ++ '\n' :: rest) := by
    simp [stringLine]
  have hequals (after : Text) : symbol? '=' ('=' :: after) = some after := rfl
  have hspace : skipSpaces (' ' :: (written content ++ '\n' :: rest)) =
      written content ++ '\n' :: rest := rfl
  have hend : ('\n' :: rest).head? ≠ some '"' := by simp
  rw [hline, statement?_append hkey, dottedKey?_append hkey]
  simp only [hequals, hspace, value?_written_append deepest content hend, Option.bind_eq_bind,
    Option.bind_some, Option.pure_def]

end Keys

/-! ### Documents -/

/-- The items of lines that assign strings. -/
def strings (entries : Keyed Text) : Keyed Item :=
  entries.map fun entry ↦ (entry.1, .string entry.2)

/-- Assignments of items to keys without dots. -/
def assignments (items : Keyed Item) : List Statement :=
  items.map fun item ↦ .assign [item.1] item.2

theorem keys_strings (entries : Keyed Text) : (strings entries).keys = entries.keys := by
  rw [strings, Keyed.keys, List.map_map]
  rfl

theorem statements?_stringLines {entries : Keyed Text} (hbare : ∀ entry ∈ entries, Bare entry.1) :
    statements? (stringLines entries) = some (assignments (strings entries)) := by
  induction entries with
  | nil =>
    rw [stringLines, List.flatMap_nil, statements?, if_pos List.isEmpty_nil]
    rfl
  | cons entry entries ih =>
    obtain ⟨key, content⟩ := entry
    rw [List.forall_mem_cons] at hbare
    have hline := statement?_stringLine hbare.1 content (stringLines entries)
    have hend : lineEnd? ('\n' :: stringLines entries) = some (stringLines entries) := rfl
    have hsome : stringLine key content ≠ [] := by simp [stringLine]
    have hne : ¬ (stringLine key content ++ stringLines entries).isEmpty = true := by simp [hsome]
    have hshorter : (stringLines entries).length <
        (stringLine key content ++ stringLines entries).length := by
      rw [List.length_append]
      exact Nat.lt_add_of_pos_left (List.length_pos_iff.mpr hsome)
    rw [stringLines, List.flatMap_cons, ← stringLines, statements?, if_neg hne]
    simp only [hline, hend, Option.bind_eq_bind, Option.bind_some, if_pos hshorter, ih hbare.2]
    rfl

/-- Assignments to distinct keys that are still free are all taken over. -/
theorem foldlM_add?_assignments (root : Keyed Item) {items : Keyed Item}
    (hkeys : (root ++ items).keys.Nodup) :
    (assignments items).foldlM Draft.add? { root } = some { root := root ++ items } := by
  induction items generalizing root with
  | nil =>
    rw [List.append_nil]
    rfl
  | cons entry items ih =>
    obtain ⟨key, item⟩ := entry
    have hnew : key ∉ root.keys := Keyed.not_mem_keys_of_append hkeys
    have hadd : Draft.add? { root } (.assign [key] item) =
        some { root := root ++ [(key, item)] } := by
      simp [Draft.add?, Item.within, Item.assign, Keyed.get?_of_not_mem hnew,
        Keyed.put_of_not_mem hnew]
    have hsplit : root ++ (key, item) :: items = root ++ [(key, item)] ++ items := by
      rw [List.append_assoc, List.singleton_append]
    rw [hsplit] at hkeys ⊢
    rw [assignments, List.map_cons, List.foldlM_cons, hadd, Option.bind_eq_bind, Option.bind_some,
      ← assignments, ih _ hkeys]

/-- No byte order mark stands before a bare key. -/
theorem withoutMark_stringLines {entries : Keyed Text}
    (hbare : ∀ entry ∈ entries, Bare entry.1) :
    withoutMark (stringLines entries) = stringLines entries := by
  cases entries with
  | nil => rfl
  | cons entry entries =>
    obtain ⟨c, others, hkey, hc⟩ := (hbare entry List.mem_cons_self).exists_eq_cons
    rw [stringLines, List.flatMap_cons, stringLine, hkey]
    exact withoutMark.eq_2 _ fun rest hrest ↦ hc '\uFEFF' (by decide) (List.cons.inj hrest).1

/-- Lines that assign strings to distinct bare keys are read as these strings under these keys. -/
theorem items?_stringLines {entries : Keyed Text} (hbare : ∀ entry ∈ entries, Bare entry.1)
    (hkeys : entries.keys.Nodup) : items? (stringLines entries) = some (strings entries) := by
  have hdraft : (assignments (strings entries)).foldlM Draft.add? {} =
      some { root := strings entries } :=
    foldlM_add?_assignments [] (by rwa [List.nil_append, keys_strings])
  rw [items?, withoutMark_stringLines hbare, statements?_stringLines hbare, Option.bind_eq_bind,
    Option.bind_some, hdraft]
  rfl

end DevicetreeHeader.Toml
