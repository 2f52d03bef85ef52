import DevicetreeHeader.Proofs.Files.Ancestors
import Mathlib.Data.List.Infix

/-!
# The order of a search

A path without a parent is empty, or nothing but the root is left of it (`of_topmost`). On the way
up to there each path has one component less than the path before it, so that the components of the
ancestors are the prefixes of the components of the path, the longest first and each once
(`map_components_ancestors`), whatever the spelling of the path.

A search tries the file in each of the ancestors, in this order, up to the first that is accepted
(`search_climbs`).
-/

set_option autoImplicit false
set_option relaxedAutoImplicit false

namespace DevicetreeHeader.Files

namespace Path

variable {path : Text}

/-! ### The top -/

/-- The way up ends at the root if it starts from an absolute path, and at the empty path
otherwise. -/
structure IsTop (path : Text) : Prop where
  of_absolute : path.head? = some '/' → components path = [.root]
  of_relative : path.head? ≠ some '/' → path = []

theorem eq_nil_of_silent (hstart : ∀ rest, path = '/' :: rest → False)
    (hother : ∀ rest, path.splitOn '/' = ['.'] :: rest → False)
    (hsilent : ∀ piece ∈ path.splitOn '/', isSilent piece = true) : path = [] := by
  obtain ⟨first, rest, hpieces⟩ := List.exists_cons_of_ne_nil (List.splitOn_ne_nil '/' path)
  rw [hpieces] at hsilent
  have hfirst : first = [] ∨ first = ['.'] := by
    simpa [isSilent] using hsilent first List.mem_cons_self
  rcases hfirst with rfl | rfl
  · by_cases hrest : rest = []
    · rw [← ofPieces_splitOn path, hpieces, hrest]
      rfl
    · exact absurd (head?_of_empty_piece hpieces hrest) (head?_of_relative hstart)
  · exact (hother rest hpieces).elim

theorem isTop_of_parent? (hparent : parent? path = none) : IsTop path := by
  revert hparent
  fun_cases parent? path with
  | case1 rest =>
    intro hparent
    rw [Option.map_eq_none_iff] at hparent
    refine ⟨fun _ ↦ ?_, fun hrelative ↦ absurd rfl hrelative⟩
    rw [components, named_of_cut?_eq_none hparent]
  | case2 => exact nofun
  | case3 => exact nofun
  | case4 _ hstart hother =>
    intro hparent
    rw [Option.map_eq_none_iff] at hparent
    have hempty := eq_nil_of_silent hstart hother (silent_of_cut?_eq_none hparent)
    exact ⟨fun habsolute ↦ absurd habsolute (head?_of_relative hstart), fun _ ↦ hempty⟩

/-! ### The way up -/

/-- The components of a path and of what is left of it on the way up, the longest first. -/
def remainders (path : Text) : List (List Component) :=
  (if path.head? = some '/' then (components path).inits.tail else (components path).inits).reverse

theorem remainders_of_isTop (htop : IsTop path) : remainders path = [components path] := by
  rw [remainders]
  split
  · rename_i habsolute
    rw [htop.of_absolute habsolute]
    rfl
  · rename_i hrelative
    rw [htop.of_relative hrelative]
    rfl

theorem remainders_of_isParent {parent : Text} (hparent : IsParent path parent) :
    remainders path = components path :: remainders parent := by
  obtain ⟨last, -, hlast⟩ := hparent.components
  have hinits : (components path).inits = (components parent).inits ++ [components path] := by
    rw [hlast, List.inits_append]
    rfl
  have hsome : (components parent).inits ≠ [] :=
    List.ne_nil_of_mem ((List.mem_inits _ _).mpr List.prefix_rfl)
  rw [remainders, remainders, hinits, List.tail_append_of_ne_nil hsome]
  simp only [hparent.head]
  split
  · rw [List.reverse_concat]
  · rw [List.reverse_concat]

theorem map_components_ancestors (path : Text) :
    (ancestors path).map components = remainders path := by
  induction path using upwardInduction with
  | top path hparent =>
    rw [ancestors_of_topmost hparent, remainders_of_isTop (isTop_of_parent? hparent)]
    rfl
  | step path parent hparent ih =>
    rw [ancestors_of_parent? hparent, remainders_of_isParent (isParent_of_parent? hparent),
      List.map_cons, ih]

theorem head?_ancestors (path : Text) : (ancestors path).head? = some path := by
  rw [ancestors]
  rfl

/-- The last ancestor is the top, and starts like the path. -/
theorem exists_top_ancestors (path : Text) : ∃ top, (ancestors path).getLast? = some top ∧
    IsTop top ∧ (top.head? = some '/' ↔ path.head? = some '/') := by
  induction path using upwardInduction with
  | top path hparent =>
    exact ⟨path, by rw [ancestors_of_topmost hparent]; rfl, isTop_of_parent? hparent, Iff.rfl⟩
  | step path parent hparent ih =>
    obtain ⟨top, hlast, htop, hhead⟩ := ih
    refine ⟨top, ?_, htop, hhead.trans (isParent_of_parent? hparent).head⟩
    rw [ancestors_of_parent? hparent, List.getLast?_cons, hlast, Option.getD_some]

end Path

/-! ### Trying candidates -/

open Files.Path (ancestors components join)

section Probe

variable {accept : Text → Bool}

theorem probe_append_of_refused {before : List Candidate}
    (hbefore : ∀ candidate ∈ before, accept candidate.path = false) (after : List Candidate) :
    probe accept (before ++ after) =
      ⟨before.map Candidate.path ++ (probe accept after).probed, (probe accept after).found⟩ := by
  induction before with
  | nil => rfl
  | cons candidate before ih =>
    rw [List.forall_mem_cons] at hbefore
    rw [List.cons_append, probe, hbefore.1, ih hbefore.2]
    rfl

variable {start name : Text}

theorem search_of_refused
    (hrefused : ∀ directory ∈ ancestors start, accept (join directory name) = false) :
    search start name accept = ⟨(ancestors start).map (join · name), none⟩ := by
  have hcandidates : ∀ candidate ∈ candidates start name, accept candidate.path = false :=
    List.forall_mem_map.mpr hrefused
  have hprobe := probe_append_of_refused hcandidates []
  rw [List.append_nil, probe, List.append_nil, candidates, List.map_map] at hprobe
  exact hprobe

theorem search_of_accepted {directory : Text} {before after : List Text}
    (hancestors : ancestors start = before ++ directory :: after)
    (hbefore : ∀ nearer ∈ before, accept (join nearer name) = false)
    (haccept : accept (join directory name) = true) :
    search start name accept = ⟨before.map (join · name) ++ [join directory name],
      some ⟨directory, join directory name⟩⟩ := by
  let candidate (directory : Text) : Candidate := ⟨directory, join directory name⟩
  have hcandidates : ∀ nearer ∈ before.map candidate, accept nearer.path = false :=
    List.forall_mem_map.mpr hbefore
  have hprobe := probe_append_of_refused hcandidates ((directory :: after).map candidate)
  rw [← List.map_append, ← hancestors, List.map_map, List.map_cons, probe, if_pos haccept] at hprobe
  exact hprobe

/-- All ancestors are refused, or there is a first that is accepted. -/
theorem refused_or_first_accepted (start name : Text) (accept : Text → Bool) :
    (∀ directory ∈ ancestors start, accept (join directory name) = false) ∨
      ∃ before directory after, ancestors start = before ++ directory :: after ∧
        (∀ nearer ∈ before, accept (join nearer name) = false) ∧
        accept (join directory name) = true := by
  cases hfind : (ancestors start).find? fun directory ↦ accept (join directory name) with
  | none => exact .inl (by simpa using hfind)
  | some directory =>
    obtain ⟨haccept, before, after, hancestors, hbefore⟩ := List.find?_eq_some_iff_append.mp hfind
    exact .inr ⟨before, directory, after, hancestors, by simpa using hbefore, haccept⟩

end Probe

/-- The ancestors of a path start with the path and end at the root or at the empty path, and their
components are the prefixes of its components in between, the longest first. A search tries the file
in each of them in this order: it finds none if none is accepted, and otherwise the first that is
accepted, with the ancestor, and tries no further. -/
theorem search_climbs (start name : Text) (accept : Text → Bool) :
    let result := search start name accept
    (ancestors start).head? = some start ∧
    (ancestors start).map components =
      (if start.head? = some '/' then (components start).inits.tail
        else (components start).inits).reverse ∧
    (∃ top, (ancestors start).getLast? = some top ∧
      if start.head? = some '/' then components top = [.root] else top = []) ∧
    (result.found = none ↔
      ∀ directory ∈ ancestors start, accept (join directory name) = false) ∧
    match result.found with
    | none => result.probed = (ancestors start).map (join · name)
    | some candidate => ∃ before after,
      ancestors start = before ++ candidate.directory :: after ∧
      candidate.path = join candidate.directory name ∧
      accept candidate.path = true ∧
      (∀ nearer ∈ before, accept (join nearer name) = false) ∧
      result.probed = before.map (join · name) ++ [candidate.path] := by
  intro result
  obtain ⟨top, hlast, htop, hhead⟩ := Path.exists_top_ancestors start
  have hend : if start.head? = some '/' then components top = [.root] else top = [] := by
    split
    · exact htop.of_absolute (hhead.mpr ‹_›)
    · exact htop.of_relative (mt hhead.mp ‹_›)
  refine ⟨Path.head?_ancestors start, Path.map_components_ancestors start, ⟨top, hlast, hend⟩, ?_⟩
  rcases refused_or_first_accepted start name accept with
    hrefused | ⟨before, directory, after, hancestors, hbefore, haccept⟩
  · have hresult : result = ⟨(ancestors start).map (join · name), none⟩ :=
      search_of_refused hrefused
    rw [hresult]
    exact ⟨⟨fun _ ↦ hrefused, fun _ ↦ rfl⟩, rfl⟩
  · have hresult : result = ⟨before.map (join · name) ++ [join directory name],
        some ⟨directory, join directory name⟩⟩ :=
      search_of_accepted hancestors hbefore haccept
    have hmem : directory ∈ ancestors start :=
      hancestors ▸ List.mem_append_right before List.mem_cons_self
    rw [hresult]
    refine ⟨⟨nofun, fun hrefused ↦ ?_⟩, before, after, hancestors, rfl, haccept, hbefore, rfl⟩
    exact absurd (hrefused directory hmem) (by simp [haccept])

end DevicetreeHeader.Files
