import DevicetreeHeader.Proofs.Keyed.FirstOccurrence
import DevicetreeHeader.Proofs.Node.Reading
import Mathlib.Data.List.Basic

/-!
# The account of a reading

While a block is read, its properties and the reports grow together. After any number of assignments
both are a function of these assignments alone: the properties are what writing them leaves, and the
reports are their `account`, in which each assignment is followed by the value that it replaces, the
last one before it under the same key (`add_account`). So the reports tell all assignments
(`filterMap_account`) and with them the properties, and every assignment that adds no key has
replaced a value (`length_replacements`).
-/

set_option autoImplicit false
set_option relaxedAutoImplicit false

namespace DevicetreeHeader

open Log (Event)
open Source (Assignment Block assignments blocks)

namespace Log.Event

/-- The assignment that an event reports. -/
def assignment? : Event → Option (Text × Value)
  | classified _ key value => some (key, value)
  | _ => none

/-- The number of nodes that an event reports. -/
def count? : Event → Option Nat
  | extracted count => some count
  | _ => none

end Log.Event

namespace Node

/-- What the assignments of a block write. -/
def written (block : Block) : List (Text × Value) :=
  (assignments block.body).map classified

/-- The reports of an assignment that comes after others: its value, and the value that it replaces
if one of the others has the same key. -/
def reports (label : Text) (earlier : List (Text × Value)) (pair : Text × Value) : List Event :=
  .classified label pair.1 pair.2 ::
    ((Keyed.last? pair.1 earlier).map (Event.overwritten label pair.1)).toList

/-- The reports of assignments, each of which comes after those before it. -/
def account (label : Text) (pairs : List (Text × Value)) : List Event :=
  pairs.zipIdx.flatMap fun entry ↦ reports label (pairs.take entry.2) entry.1

/-- The properties that reports tell. -/
def replay (events : List Event) : Keyed Value :=
  .ofList (events.filterMap Event.assignment?)

section Account

variable (label : Text)

theorem account_concat (pairs : List (Text × Value)) (pair : Text × Value) :
    account label (pairs ++ [pair]) = account label pairs ++ reports label pairs pair := by
  have hbefore : ∀ entry ∈ pairs.zipIdx,
      reports label ((pairs ++ [pair]).take entry.2) entry.1 =
        reports label (pairs.take entry.2) entry.1 := by
    intro entry hentry
    have hposition := List.snd_lt_of_mem_zipIdx hentry
    rw [List.take_append_of_le_length (by omega)]
  rw [account, List.zipIdx_append, List.flatMap_append, List.flatMap_congr hbefore, ← account,
    Nat.zero_add, List.zipIdx_singleton, List.flatMap_singleton, List.take_left]

/-- Reading one more assignment leads from the account of some to that of one more. -/
theorem add_account (pairs : List (Text × Value)) (assignment : Assignment) :
    Reading.add label ⟨Keyed.ofList pairs, account label pairs⟩ assignment =
      ⟨Keyed.ofList (pairs ++ [classified assignment]),
        account label (pairs ++ [classified assignment])⟩ := by
  rw [account_concat, Keyed.ofList_concat, Reading.add]
  simp only [Keyed.get?_ofList, reports, classified]
  cases Keyed.last? assignment.key pairs <;> rfl

theorem foldl_add_account (done : List (Text × Value)) (read : List Assignment) :
    read.foldl (Reading.add label) ⟨Keyed.ofList done, account label done⟩ =
      ⟨Keyed.ofList (done ++ read.map classified),
        account label (done ++ read.map classified)⟩ := by
  induction read generalizing done with
  | nil => rw [List.foldl_nil, List.map_nil, List.append_nil]
  | cons assignment read ih =>
    rw [List.foldl_cons, add_account, ih, List.map_cons, List.append_assoc, List.singleton_append]

/-- The account of assignments tells them, in their order. -/
theorem filterMap_account (pairs : List (Text × Value)) :
    (account label pairs).filterMap Event.assignment? = pairs := by
  induction pairs using List.reverseRecOn with
  | nil => rfl
  | append_singleton pairs pair ih =>
    have hreports : (reports label pairs pair).filterMap Event.assignment? = [pair] := by
      rw [reports]
      cases Keyed.last? pair.1 pairs <;> rfl
    rw [account_concat, List.filterMap_append, ih, hreports]

theorem filterMap_count?_account (pairs : List (Text × Value)) :
    (account label pairs).filterMap Event.count? = [] := by
  rw [List.filterMap_eq_nil_iff]
  intro event hevent
  obtain ⟨entry, -, hreport⟩ := List.mem_flatMap.mp hevent
  rw [reports, List.mem_cons, Option.mem_toList, Option.map_eq_some_iff] at hreport
  rcases hreport with rfl | ⟨old, -, rfl⟩
  · rfl
  · rfl

theorem length_debug_reports (earlier : List (Text × Value)) (pair : Text × Value) :
    ((reports label earlier pair).filter (·.level = .debug)).length =
      if pair.1 ∈ earlier.map Prod.fst then 1 else 0 := by
  cases hlast : Keyed.last? pair.1 earlier with
  | none =>
    rw [if_neg (Keyed.last?_eq_none_iff.mp hlast), reports, hlast]
    rfl
  | some old =>
    have hkey : pair.1 ∈ earlier.map Prod.fst := by
      by_contra hnew
      rw [Keyed.last?_eq_none_iff.mpr hnew] at hlast
      contradiction
    rw [if_pos hkey, reports, hlast]
    rfl

/-- An assignment adds a key, or it replaces a value. -/
theorem length_replacements (pairs : List (Text × Value)) :
    ((account label pairs).filter (·.level = .debug)).length + (Keyed.ofList pairs).length =
      pairs.length := by
  induction pairs using List.reverseRecOn with
  | nil => rfl
  | append_singleton pairs pair ih =>
    rw [account_concat, List.filter_append, List.length_append, length_debug_reports,
      Keyed.ofList_concat, Keyed.length_put, List.length_append, List.length_singleton]
    simp only [Keyed.mem_keys_ofList]
    split <;> omega

end Account

theorem reading_eq (block : Block) : reading block =
    ⟨Keyed.ofList (written block), account block.label (written block)⟩ :=
  foldl_add_account block.label [] (assignments block.body)

theorem properties_ofBlock (block : Block) :
    (ofBlock block).properties = Keyed.ofList (written block) := by
  rw [ofBlock_eq, written]

theorem events_eq_account (block : Block) :
    events block = account block.label (written block) := by
  rw [events, reading_eq]

theorem sourceEvents_eq (text : Text) : sourceEvents text =
    (blocks (Source.Comment.strip text)).flatMap events ++ [.extracted (ofSource text).length] := by
  rw [sourceEvents, ofSource, List.length_map]

/-- The number of nodes is reported once. -/
theorem filterMap_count?_sourceEvents (text : Text) :
    (sourceEvents text).filterMap Event.count? = [(ofSource text).length] := by
  have hblocks : ((blocks (Source.Comment.strip text)).flatMap events).filterMap Event.count? =
      [] := by
    rw [List.filterMap_flatMap, List.flatMap_eq_nil_iff]
    intro block _
    rw [events_eq_account, filterMap_count?_account]
  rw [sourceEvents_eq, List.filterMap_append, hblocks]
  rfl

/-- The last value of a key wins and stands where the key came first; every assignment is reported,
and directly after it the value that it replaces, if there is one; so that the reports tell the
properties, and there is one report of a replaced value for each assignment that adds no key. The
reports of a text are those of its blocks in their order, and at the end the number of its nodes,
which is reported nowhere else. -/
theorem reports_tell_properties :
    (∀ block : Block,
      (ofBlock block).properties.keys =
        ((assignments block.body).map Assignment.key).eraseDups ∧
      (∀ key, (ofBlock block).properties.get? key = Keyed.last? key (written block)) ∧
      events block = (written block).zipIdx.flatMap (fun entry ↦
        reports block.label ((written block).take entry.2) entry.1) ∧
      replay (events block) = (ofBlock block).properties ∧
      ((events block).filter (·.level = .debug)).length + (ofBlock block).properties.length =
        (assignments block.body).length) ∧
    ∀ text : Text,
      sourceEvents text = (blocks (Source.Comment.strip text)).flatMap events ++
        [.extracted (ofSource text).length] ∧
      (sourceEvents text).filterMap Event.count? = [(ofSource text).length] := by
  refine ⟨fun block ↦ ?_, fun text ↦ ⟨sourceEvents_eq text, filterMap_count?_sourceEvents text⟩⟩
  rw [events_eq_account, properties_ofBlock]
  refine ⟨?_, Keyed.get?_ofList (written block), rfl, ?_, ?_⟩
  · rw [Keyed.keys_ofList, written, List.map_map]
    rfl
  · rw [replay, filterMap_account]
  · rw [length_replacements, written, List.length_map]

end Node

end DevicetreeHeader
