import DevicetreeHeader.Keyed
import Mathlib.Data.List.Basic
import Mathlib.Data.List.Induction

/-!
# Entries by first occurrence

Writing under keys one after the other leaves the keys in the order of their first occurrences,
which is what `List.eraseDups` makes of a list of keys (`keys_ofList`), each with the value that was
written last under it (`get?_ofList`). `Keyed.tabulate` is the entries of a list of keys with the
values as a function of the keys; reading and writing them is reading and updating this function
(`get?_tabulate`, `put_tabulate`).
-/

set_option autoImplicit false
set_option relaxedAutoImplicit false

namespace DevicetreeHeader

/-! ### First occurrences -/

section FirstOccurrences

variable {α : Type} [BEq α] [LawfulBEq α]

theorem nodup_eraseDups (items : List α) : items.eraseDups.Nodup := by
  cases items with
  | nil => simp
  | cons item items =>
    rw [List.eraseDups_cons, List.nodup_cons]
    exact ⟨by simp, nodup_eraseDups (items.filter fun other ↦ !other == item)⟩
termination_by items.length
decreasing_by exact Nat.lt_succ_of_le (List.length_filter_le _ items)

/-- A new item comes last, one that occurred before changes nothing. -/
theorem eraseDups_concat (items : List α) (item : α) : (items ++ [item]).eraseDups =
    if item ∈ items.eraseDups then items.eraseDups else items.eraseDups ++ [item] := by
  rw [List.eraseDups_append]
  by_cases hmem : item ∈ items
  · simp [List.removeAll, hmem]
  · simp [List.removeAll, List.eraseDups_cons, hmem]

theorem eraseDups_map {β : Type} [BEq β] [LawfulBEq β] {f : α → β} (hf : Function.Injective f)
    (items : List α) : (items.map f).eraseDups = items.eraseDups.map f := by
  induction items using List.reverseRecOn with
  | nil => simp
  | append_singleton items item ih =>
    have hmem : f item ∈ items.eraseDups.map f ↔ item ∈ items.eraseDups :=
      List.mem_map_of_injective hf
    rw [List.map_append, List.map_singleton, eraseDups_concat, eraseDups_concat, ih]
    by_cases hitem : item ∈ items.eraseDups
    · rw [if_pos hitem, if_pos (hmem.mpr hitem)]
    · rw [if_neg hitem, if_neg (mt hmem.mp hitem), List.map_append, List.map_singleton]

/-- First occurrences are in the order of their positions. -/
theorem pairwise_idxOf_eraseDups (items : List α) :
    items.eraseDups.Pairwise fun first second ↦ items.idxOf first < items.idxOf second := by
  induction items using List.reverseRecOn with
  | nil => simp
  | append_singleton items item ih =>
    have hposition : ∀ other ∈ items.eraseDups,
        (items ++ [item]).idxOf other = items.idxOf other :=
      fun other hother ↦ List.idxOf_append_of_mem (List.mem_eraseDups.mp hother)
    have hbefore : items.eraseDups.Pairwise fun first second ↦
        (items ++ [item]).idxOf first < (items ++ [item]).idxOf second := by
      refine ih.imp_of_mem fun hfirst hsecond hlt ↦ ?_
      rwa [hposition _ hfirst, hposition _ hsecond]
    rw [eraseDups_concat]
    split
    · exact hbefore
    · rename_i hnew
      refine List.pairwise_append.mpr ⟨hbefore, List.pairwise_singleton _ _, ?_⟩
      intro other hother last hlast
      obtain rfl := List.mem_singleton.mp hlast
      rw [List.mem_eraseDups] at hnew
      rw [hposition other hother, List.idxOf_append_of_notMem hnew]
      exact Nat.lt_add_right _ (List.idxOf_lt_length_of_mem (List.mem_eraseDups.mp hother))

end FirstOccurrences

/-- Items put together by their keys are the same items. -/
theorem perm_flatMap_filter {α β : Type} [DecidableEq β] (key : α → β) {keys : List β}
    (hkeys : keys.Nodup) {items : List α} (hitems : ∀ item ∈ items, key item ∈ keys) :
    (keys.flatMap fun first ↦ items.filter (key · = first)).Perm items := by
  induction keys generalizing items with
  | nil =>
    have hnone : items = [] := List.eq_nil_iff_forall_not_mem.mpr fun item hitem ↦
      List.not_mem_nil (hitems item hitem)
    rw [hnone, List.flatMap_nil]
  | cons first keys ih =>
    rw [List.nodup_cons] at hkeys
    -- The items under the later keys are among those that are not under the first.
    have hlater : ∀ other ∈ keys, items.filter (key · = other) =
        (items.filter fun item ↦ !decide (key item = first)).filter (key · = other) := by
      intro other hother
      rw [List.filter_filter]
      refine List.filter_congr fun item _ ↦ ?_
      have hne : other ≠ first := by
        rintro rfl
        exact hkeys.1 hother
      by_cases hkey : key item = other
      · simp [hkey, hne]
      · simp [hkey]
    have hrest : ∀ item ∈ items.filter fun item ↦ !decide (key item = first),
        key item ∈ keys := by
      intro item hitem
      rw [List.mem_filter] at hitem
      exact (List.mem_cons.mp (hitems item hitem.1)).resolve_left (by simpa using hitem.2)
    rw [List.flatMap_cons, List.flatMap_congr hlater]
    exact ((ih hkeys.2 hrest).append_left _).trans (List.filter_append_perm _ items)

namespace Keyed

variable {α : Type}

/-- Writing pairs after others leaves the keys in the order of their first occurrences. -/
theorem keys_putAll {entries : Keyed α} {written : List Text}
    (hentries : entries.keys = written.eraseDups) (pairs : List (Text × α)) :
    (entries.putAll pairs).keys = (written ++ pairs.map Prod.fst).eraseDups := by
  induction pairs generalizing entries written with
  | nil => rw [putAll, List.foldl_nil, hentries, List.map_nil, List.append_nil]
  | cons pair pairs ih =>
    have hput : (entries.put pair.1 pair.2).keys = (written ++ [pair.1]).eraseDups := by
      rw [keys_put, hentries, eraseDups_concat]
    rw [putAll, List.foldl_cons, ← putAll, ih hput, List.map_cons, List.append_assoc,
      List.singleton_append]

theorem keys_ofList (pairs : List (Text × α)) :
    (ofList pairs).keys = (pairs.map Prod.fst).eraseDups := by
  have hnone : (keys ([] : Keyed α)) = [].eraseDups := by simp [keys]
  rw [ofList, keys_putAll hnone, List.nil_append]

theorem mem_keys_ofList {pairs : List (Text × α)} {key : Text} :
    key ∈ (ofList pairs).keys ↔ key ∈ pairs.map Prod.fst := by
  rw [keys_ofList, List.mem_eraseDups]

theorem length_put (key : Text) (value : α) (entries : Keyed α) :
    (entries.put key value).length =
      if key ∈ entries.keys then entries.length else entries.length + 1 := by
  have hkeys := congrArg List.length (keys_put key value entries)
  rw [keys, List.length_map] at hkeys
  rw [hkeys]
  split <;> simp [keys]

/-! ### Last values -/

/-- The value that comes last under a key. -/
def last? (key : Text) (pairs : List (Text × α)) : Option α :=
  get? key pairs.reverse

theorem last?_concat (key : Text) (pairs : List (Text × α)) (pair : Text × α) :
    last? key (pairs ++ [pair]) = if pair.1 = key then some pair.2 else last? key pairs := by
  rw [last?, List.reverse_append, List.reverse_singleton, List.singleton_append, get?, last?]

theorem last?_eq_none_iff {key : Text} {pairs : List (Text × α)} :
    last? key pairs = none ↔ key ∉ pairs.map Prod.fst := by
  induction pairs using List.reverseRecOn with
  | nil => simp [last?, get?]
  | append_singleton pairs pair ih =>
    rw [last?_concat, List.map_append, List.map_singleton, List.mem_append, List.mem_singleton,
      not_or, ← ih]
    by_cases hkey : pair.1 = key
    · simp [hkey]
    · simp [hkey, Ne.symm hkey]

theorem ofList_concat (pairs : List (Text × α)) (pair : Text × α) :
    ofList (pairs ++ [pair]) = (ofList pairs).put pair.1 pair.2 := by
  rw [ofList, putAll, List.foldl_append, List.foldl_cons, List.foldl_nil]
  rfl

/-- Under each key stands the value that was written last. -/
theorem get?_ofList (pairs : List (Text × α)) (key : Text) :
    (ofList pairs).get? key = last? key pairs := by
  induction pairs using List.reverseRecOn with
  | nil => rfl
  | append_singleton pairs pair ih =>
    rw [ofList_concat, last?_concat]
    by_cases hkey : pair.1 = key
    · rw [if_pos hkey, ← hkey, get?_put_self]
    · rw [if_neg hkey, get?_put_of_ne (Ne.symm hkey), ih]

/-! ### Entries as a function of the keys -/

/-- The entries of a list of keys, each with its value. -/
def tabulate (keys : List Text) (value : Text → α) : Keyed α :=
  keys.map fun key ↦ (key, value key)

theorem get?_tabulate (keys : List Text) (value : Text → α) (key : Text) :
    (tabulate keys value).get? key = if key ∈ keys then some (value key) else none := by
  induction keys with
  | nil => rfl
  | cons other keys ih =>
    rw [tabulate, List.map_cons, ← tabulate, get?, ih]
    by_cases hother : other = key
    · simp [hother]
    · simp [hother, Ne.symm hother]

/-- Writing a value updates the function, and a new key comes last. -/
theorem put_tabulate {keys : List Text} (hkeys : keys.Nodup) (value : Text → α) (key : Text)
    (new : α) : (tabulate keys value).put key new =
      tabulate (if key ∈ keys then keys else keys ++ [key])
        (fun other ↦ if other = key then new else value other) := by
  induction keys with
  | nil => simp [tabulate, put]
  | cons first keys ih =>
    rw [List.nodup_cons] at hkeys
    rw [tabulate, List.map_cons, ← tabulate, put]
    by_cases hfirst : first = key
    · subst hfirst
      have hrest : ∀ other ∈ keys, (other, value other) =
          (other, if other = first then new else value other) := by
        intro other hother
        rw [if_neg]
        rintro rfl
        exact hkeys.1 hother
      rw [if_pos rfl, if_pos List.mem_cons_self, tabulate, tabulate, List.map_cons, if_pos rfl,
        List.map_congr_left hrest]
    · rw [if_neg hfirst, ih hkeys.2]
      by_cases hmem : key ∈ keys
      · simp [tabulate, hfirst, hmem]
      · simp [tabulate, hfirst, hmem, Ne.symm hfirst]

end Keyed

end DevicetreeHeader
