import DevicetreeHeader.Text.Basic

/-!
# Values under keys

A list of values under texts as keys, in the order in which the keys were first written. Writing a
key again replaces its value where it stands. The main facts are the equations for `get?` and `keys`
after a `put`, and that nothing comes in but what is written.
-/

set_option autoImplicit false
set_option relaxedAutoImplicit false

namespace DevicetreeHeader

/-- Values under keys, in the order of first writing. -/
abbrev Keyed (α : Type) := List (Text × α)

namespace Keyed

variable {α : Type}

/-- The keys in order. -/
def keys (entries : Keyed α) : List Text :=
  entries.map Prod.fst

/-- The value under a key. -/
def get? (key : Text) : Keyed α → Option α
  | [] => none
  | (other, value) :: rest => if other = key then some value else get? key rest

/-- Writes a value under a key: in place if the key is there, at the end otherwise. -/
def put (key : Text) (value : α) : Keyed α → Keyed α
  | [] => [(key, value)]
  | (other, old) :: rest =>
    if other = key then (other, value) :: rest else (other, old) :: put key value rest

/-- Writes the pairs of a list one after the other. -/
def putAll (entries : Keyed α) (pairs : List (Text × α)) : Keyed α :=
  pairs.foldl (fun written pair ↦ written.put pair.1 pair.2) entries

/-- The entries that writing the pairs of a list leaves. -/
def ofList (pairs : List (Text × α)) : Keyed α :=
  putAll [] pairs

theorem get?_put_self (key : Text) (value : α) (entries : Keyed α) :
    (entries.put key value).get? key = some value := by
  induction entries with
  | nil => simp [put, get?]
  | cons entry rest ih =>
    obtain ⟨other, old⟩ := entry
    by_cases hother : other = key
    · simp [put, get?, hother]
    · simp [put, get?, hother, ih]

theorem get?_put_of_ne {key other : Text} (hne : other ≠ key) (value : α) (entries : Keyed α) :
    (entries.put key value).get? other = entries.get? other := by
  induction entries with
  | nil => simp [put, get?, Ne.symm hne]
  | cons entry rest ih =>
    obtain ⟨first, old⟩ := entry
    by_cases hfirst : first = key
    · subst hfirst
      simp [put, get?, Ne.symm hne]
    · simp [put, get?, hfirst, ih]

theorem keys_put (key : Text) (value : α) (entries : Keyed α) :
    (entries.put key value).keys =
      if key ∈ entries.keys then entries.keys else entries.keys ++ [key] := by
  induction entries with
  | nil => simp [put, keys]
  | cons entry rest ih =>
    obtain ⟨other, old⟩ := entry
    by_cases hother : other = key
    · simp [put, keys, hother]
    · simp only [put, hother, if_false, keys, List.map_cons] at ih ⊢
      rw [ih]
      by_cases hmem : key ∈ List.map Prod.fst rest <;> simp [hmem, Ne.symm hother]

theorem put_of_not_mem {key : Text} {entries : Keyed α} (hkey : key ∉ entries.keys) (value : α) :
    entries.put key value = entries ++ [(key, value)] := by
  induction entries with
  | nil => rfl
  | cons entry rest ih =>
    obtain ⟨other, old⟩ := entry
    rw [keys, List.map_cons, List.mem_cons, not_or] at hkey
    rw [put, if_neg (Ne.symm hkey.1), ih hkey.2, List.cons_append]

theorem get?_of_not_mem {key : Text} {entries : Keyed α} (hkey : key ∉ entries.keys) :
    entries.get? key = none := by
  induction entries with
  | nil => rfl
  | cons entry rest ih =>
    obtain ⟨other, value⟩ := entry
    rw [keys, List.map_cons, List.mem_cons, not_or] at hkey
    rw [get?, if_neg (Ne.symm hkey.1), ih hkey.2]

theorem mem_put {key : Text} {value : α} {entries : Keyed α} {entry : Text × α}
    (hentry : entry ∈ entries.put key value) : entry ∈ entries ∨ entry = (key, value) := by
  induction entries with
  | nil => exact Or.inr (List.mem_singleton.mp hentry)
  | cons first rest ih =>
    obtain ⟨other, old⟩ := first
    rw [put] at hentry
    split at hentry
    · rename_i hother
      subst hother
      rcases List.mem_cons.mp hentry with hhere | hlater
      · exact Or.inr hhere
      · exact Or.inl (List.mem_cons_of_mem _ hlater)
    · rcases List.mem_cons.mp hentry with rfl | hlater
      · exact Or.inl List.mem_cons_self
      · exact (ih hlater).imp_left (List.mem_cons_of_mem _)

/-- Nothing is under a key that was not there and has not been written. -/
theorem mem_putAll {entries : Keyed α} {pairs : List (Text × α)} {entry : Text × α}
    (hentry : entry ∈ entries.putAll pairs) : entry ∈ entries ∨ entry ∈ pairs := by
  induction pairs generalizing entries with
  | nil => exact Or.inl hentry
  | cons pair pairs ih =>
    rcases ih hentry with hput | hlater
    · rcases mem_put hput with hold | rfl
      · exact Or.inl hold
      · exact Or.inr List.mem_cons_self
    · exact Or.inr (List.mem_cons_of_mem pair hlater)

theorem mem_of_mem_ofList {pairs : List (Text × α)} {entry : Text × α}
    (hentry : entry ∈ ofList pairs) : entry ∈ pairs :=
  (mem_putAll hentry).resolve_left List.not_mem_nil

/-- Of distinct keys the one of a later entry is not among the earlier ones. -/
theorem not_mem_keys_of_append {entries pairs : Keyed α} {pair : Text × α}
    (hkeys : (keys (entries ++ pair :: pairs)).Nodup) : pair.1 ∉ entries.keys := by
  rw [keys, List.map_append, List.map_cons, List.nodup_append] at hkeys
  exact fun hmem ↦ hkeys.2.2 pair.1 hmem pair.1 List.mem_cons_self rfl

theorem putAll_of_nodup {entries : Keyed α} {pairs : List (Text × α)}
    (hkeys : (keys (entries ++ pairs)).Nodup) : entries.putAll pairs = entries ++ pairs := by
  induction pairs generalizing entries with
  | nil => rw [List.append_nil, putAll, List.foldl_nil]
  | cons pair pairs ih =>
    have hnew : pair.1 ∉ entries.keys := not_mem_keys_of_append hkeys
    have hsplit : entries ++ pair :: pairs = entries ++ [pair] ++ pairs := by
      rw [List.append_assoc, List.singleton_append]
    rw [hsplit] at hkeys ⊢
    rw [putAll, List.foldl_cons, put_of_not_mem hnew, ← putAll]
    exact ih hkeys

/-- Pairs with distinct keys are the entries that writing them leaves. -/
theorem ofList_of_nodup {pairs : List (Text × α)} (hkeys : (keys pairs).Nodup) :
    ofList pairs = pairs :=
  putAll_of_nodup hkeys

end Keyed

end DevicetreeHeader
