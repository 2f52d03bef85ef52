import DevicetreeHeader.Files.Search
import DevicetreeHeader.Proofs.Text.Marker
import Mathlib.Data.List.Basic

/-!
# Ancestors of a path

The parent of a path has the components of the path but the last (`IsParent.components`), and it is
the path up to one of its slashes, unless nothing or only the root is left (`IsParent.spelling`).
Hence each ancestor of a path lacks some components at the end of the path, and the ancestors before
it lack fewer of them, one more each (`dropped_of_ancestors`).

A search tries the ancestors in this order and finds the first that is accepted (`of_search_found`).
-/

set_option autoImplicit false
set_option relaxedAutoImplicit false

namespace DevicetreeHeader.Files

namespace Path

variable {path parent : Text} {pieces kept : List Text}

/-! ### Pieces and components -/

theorem named_append (first last : List Text) :
    named (first ++ last) = named first ++ named last := by
  rw [named, List.filter_append, List.map_append, named, named]

theorem named_cons_of_silent {piece : Text} (hpiece : isSilent piece = true) (pieces : List Text) :
    named (piece :: pieces) = named pieces := by
  rw [named, List.filter_cons_of_neg (by simp [hpiece]), named]

theorem named_of_silent (hpieces : ∀ piece ∈ pieces, isSilent piece = true) :
    named pieces = [] := by
  rw [named, List.filter_eq_nil_iff.mpr (by simpa using hpieces), List.map_nil]

theorem component_ne_root (piece : Text) : component piece ≠ .root := by
  rw [component]
  split
  · exact nofun
  · exact nofun

theorem exists_silent_of_dropSilent (pieces : List Text) :
    ∃ silent, pieces = dropSilent pieces ++ silent ∧ ∀ piece ∈ silent, isSilent piece = true := by
  refine ⟨(pieces.reverse.takeWhile isSilent).reverse, ?_, fun piece hpiece ↦ ?_⟩
  · rw [dropSilent, ← List.reverse_append, List.takeWhile_append_dropWhile, List.reverse_reverse]
  · exact List.all_eq_true.mp List.all_takeWhile piece (List.mem_reverse.mp hpiece)

theorem not_silent_of_dropSilent {last : Text} (hpieces : dropSilent pieces = kept ++ [last]) :
    isSilent last = false := by
  have hnot := List.head?_dropWhile_not isSilent pieces.reverse
  have hreverse : pieces.reverse.dropWhile isSilent = last :: kept.reverse := by
    rw [← List.reverse_reverse (pieces.reverse.dropWhile isSilent)]
    exact (congrArg List.reverse hpieces).trans List.reverse_concat
  rwa [hreverse] at hnot

theorem named_dropSilent (pieces : List Text) : named (dropSilent pieces) = named pieces := by
  obtain ⟨silent, hpieces, hsilent⟩ := exists_silent_of_dropSilent pieces
  calc named (dropSilent pieces) = named (dropSilent pieces ++ silent) := by
        rw [named_append, named_of_silent hsilent, List.append_nil]
    _ = named pieces := by rw [← hpieces]

/-- Cutting pieces drops the last component, with at least the piece that names it. -/
theorem of_cut?_eq_some (hcut : cut? pieces = some kept) :
    (∃ last rest, pieces = kept ++ last :: rest) ∧
      ∃ last, named pieces = named kept ++ [component last] := by
  rw [cut?] at hcut
  split at hcut
  · cases hcut
  rename_i first rest hspoken
  obtain ⟨front, last, hlast⟩ := List.eq_nil_or_concat (first :: rest) |>.resolve_left nofun
  rw [List.concat_eq_append] at hlast
  obtain rfl : dropSilent front = kept := by
    rw [hlast, List.dropLast_concat] at hcut
    exact Option.some.inj hcut
  obtain ⟨behind, hpieces, -⟩ := exists_silent_of_dropSilent pieces
  obtain ⟨between, hfront, -⟩ := exists_silent_of_dropSilent front
  have hnot : isSilent last = false := not_silent_of_dropSilent (hspoken.trans hlast)
  constructor
  · have hwhole : pieces = dropSilent front ++ (between ++ last :: behind) := by
      rw [← List.append_assoc, ← hfront, hpieces, hspoken, hlast, List.append_assoc]
      rfl
    obtain ⟨piece, later, hmore⟩ : ∃ piece later, between ++ last :: behind = piece :: later :=
      List.exists_cons_of_ne_nil (by simp)
    exact ⟨piece, later, hmore ▸ hwhole⟩
  · refine ⟨last, ?_⟩
    rw [← named_dropSilent pieces, hspoken, hlast, named_append, named_dropSilent,
      show named [last] = [component last] by simp [named, hnot]]

theorem silent_of_cut?_eq_none (hcut : cut? pieces = none) :
    ∀ piece ∈ pieces, isSilent piece = true := by
  obtain ⟨silent, hpieces, hsilent⟩ := exists_silent_of_dropSilent pieces
  rw [cut?] at hcut
  split at hcut
  · rename_i hspoken
    rw [hspoken, List.nil_append] at hpieces
    exact hpieces ▸ hsilent
  · cases hcut

theorem named_of_cut?_eq_none (hcut : cut? pieces = none) : named pieces = [] :=
  named_of_silent (silent_of_cut?_eq_none hcut)

/-! ### Spelling -/

theorem ofPieces_splitOn (path : Text) : ofPieces (path.splitOn '/') = path :=
  List.intercalate_splitOn '/'

theorem ofPieces_cons {rest : List Text} (hrest : rest ≠ []) (first : Text) :
    ofPieces (first :: rest) = first ++ '/' :: ofPieces rest := by
  rw [ofPieces, List.intercalate_cons_of_ne_nil hrest, ← ofPieces, List.append_assoc]
  rfl

theorem ofPieces_append_cons (hkept : kept ≠ []) (last : Text) (rest : List Text) :
    ofPieces (kept ++ last :: rest) = ofPieces kept ++ '/' :: ofPieces (last :: rest) := by
  induction kept with
  | nil => exact absurd rfl hkept
  | cons first kept ih =>
    rw [List.cons_append, ofPieces_cons (by simp)]
    by_cases hmore : kept = []
    · simp [hmore, ofPieces]
    · rw [ih hmore, ofPieces_cons hmore, List.append_assoc, List.cons_append]

/-- The path with the first pieces of another is this other one up to a slash. -/
theorem of_splitOn_eq_append {piece : Text} {later : List Text} (hkept : kept ≠ [])
    (hpath : path.splitOn '/' = kept ++ piece :: later) :
    (ofPieces kept).splitOn '/' = kept ∧
      path = ofPieces kept ++ '/' :: ofPieces (piece :: later) := by
  constructor
  · refine List.splitOn_intercalate '/' (fun first hfirst ↦ ?_) hkept
    exact (Text.infix_of_mem_splitOn (hpath ▸ List.mem_append_left _ hfirst)).2
  · rw [← ofPieces_append_cons hkept, ← hpath, ofPieces_splitOn]

theorem ne_nil_of_splitOn {first : Text} {rest : List Text}
    (hpath : path.splitOn '/' = first :: rest) (hfirst : first ≠ []) : path ≠ [] := by
  rintro rfl
  exact hfirst (List.cons_eq_cons.mp hpath).1.symm

theorem head?_of_empty_piece {rest : List Text} (hpath : path.splitOn '/' = [] :: rest)
    (hrest : rest ≠ []) : path.head? = some '/' := by
  rw [← ofPieces_splitOn path, hpath, ofPieces_cons hrest]
  rfl

theorem splitOn_slash_cons (rest : Text) : ('/' :: rest).splitOn '/' = [] :: rest.splitOn '/' :=
  List.splitOn_append_cons_self_of_not_mem List.not_mem_nil rest

theorem head?_of_relative (hstart : ∀ rest, path = '/' :: rest → False) :
    path.head? ≠ some '/' := by
  intro hhead
  obtain ⟨rest, hrest⟩ := List.head?_eq_some_iff.mp hhead
  exact hstart rest hrest

theorem components_of_dot {rest : List Text} (hpath : path.splitOn '/' = ['.'] :: rest) :
    components path = .here :: named rest := by
  fun_cases components path with
  | case1 behind =>
    rw [splitOn_slash_cons] at hpath
    cases hpath
  | case2 _ _ behind hbehind =>
    rw [hpath] at hbehind
    rw [(List.cons_eq_cons.mp hbehind).2]
  | case3 _ _ hother => exact (hother rest hpath).elim

theorem components_of_bare (hstart : ∀ rest, path = '/' :: rest → False)
    (hother : ∀ rest, path.splitOn '/' = ['.'] :: rest → False) :
    components path = named (path.splitOn '/') := by
  fun_cases components path with
  | case1 behind => exact (hstart behind rfl).elim
  | case2 _ _ behind hbehind => exact (hother behind hbehind).elim
  | case3 => rfl

/-! ### The parent -/

/-- What the parent of a path is: it starts like the path and has all its components but the last;
it is the path up to a slash, unless nothing or only the root is left. -/
structure IsParent (path parent : Text) : Prop where
  components : ∃ last, last ≠ .root ∧ components path = Path.components parent ++ [last]
  head : parent.head? = some '/' ↔ path.head? = some '/'
  spelling : parent = [] ∨ parent = ['/'] ∨ ∃ behind, path = parent ++ '/' :: behind

theorem IsParent.of_absolute {rest : Text} (hcut : cut? (rest.splitOn '/') = some kept) :
    IsParent ('/' :: rest) ('/' :: ofPieces kept) := by
  obtain ⟨⟨piece, later, hpieces⟩, last, hlast⟩ := of_cut?_eq_some hcut
  cases kept with
  | nil =>
    refine ⟨⟨component last, component_ne_root last, ?_⟩, by simp, .inr (.inl rfl)⟩
    exact congrArg (Component.root :: ·) hlast
  | cons first kept =>
    obtain ⟨hparent, hbehind⟩ := of_splitOn_eq_append (List.cons_ne_nil first kept) hpieces
    refine ⟨⟨component last, component_ne_root last, ?_⟩, by simp,
      .inr (.inr ⟨_, congrArg ('/' :: ·) hbehind⟩)⟩
    show .root :: named (rest.splitOn '/') = .root :: named (List.splitOn '/' _) ++ [component last]
    rw [hlast, hparent, List.cons_append]

theorem IsParent.of_dot {rest : List Text} (hpath : path.splitOn '/' = ['.'] :: rest)
    (hcut : cut? rest = some kept) : IsParent path (ofPieces (['.'] :: kept)) := by
  obtain ⟨⟨piece, later, hpieces⟩, last, hlast⟩ := of_cut?_eq_some hcut
  obtain ⟨hparent, hbehind⟩ :=
    of_splitOn_eq_append (List.cons_ne_nil ['.'] kept) (hpath.trans (congrArg _ hpieces))
  have hhead : path.head? = (ofPieces (['.'] :: kept)).head? := by
    rw [hbehind, List.head?_append_of_ne_nil _ (ne_nil_of_splitOn hparent (List.cons_ne_nil _ _))]
  refine ⟨⟨component last, component_ne_root last, ?_⟩, by rw [hhead], .inr (.inr ⟨_, hbehind⟩)⟩
  rw [components_of_dot hpath, components_of_dot hparent, hlast, List.cons_append]

theorem IsParent.of_lone_dot {rest : List Text} (hstart : ∀ rest, path = '/' :: rest → False)
    (hpath : path.splitOn '/' = ['.'] :: rest) (hcut : cut? rest = none) : IsParent path [] := by
  refine ⟨⟨.here, nofun, ?_⟩, by simpa using head?_of_relative hstart, .inl rfl⟩
  rw [components_of_dot hpath, named_of_cut?_eq_none hcut]
  rfl

theorem IsParent.of_bare (hstart : ∀ rest, path = '/' :: rest → False)
    (hother : ∀ rest, path.splitOn '/' = ['.'] :: rest → False)
    (hcut : cut? (path.splitOn '/') = some kept) : IsParent path (ofPieces kept) := by
  obtain ⟨⟨piece, later, hpieces⟩, last, hlast⟩ := of_cut?_eq_some hcut
  cases kept with
  | nil =>
    refine ⟨⟨component last, component_ne_root last, ?_⟩,
      by simpa [ofPieces] using head?_of_relative hstart, .inl rfl⟩
    rw [components_of_bare hstart hother, hlast]
    rfl
  | cons first kept =>
    obtain ⟨hparent, hbehind⟩ := of_splitOn_eq_append (List.cons_ne_nil first kept) hpieces
    have hfirst : first ≠ [] := by
      rintro rfl
      exact head?_of_relative hstart (head?_of_empty_piece hpieces (by simp))
    have hhead : path.head? = (ofPieces (first :: kept)).head? := by
      rw [hbehind, List.head?_append_of_ne_nil _ (ne_nil_of_splitOn hparent hfirst)]
    refine ⟨⟨component last, component_ne_root last, ?_⟩, by rw [hhead], .inr (.inr ⟨_, hbehind⟩)⟩
    rw [components_of_bare hstart hother, hlast, components_of_bare (fun rest hrest ↦ ?_)
      fun rest hrest ↦ ?_, hparent]
    · exact head?_of_relative hstart (by rw [hhead, hrest]; rfl)
    · obtain ⟨rfl, -⟩ := List.cons_eq_cons.mp (hparent.symm.trans hrest)
      exact hother _ hpieces

theorem isParent_of_parent? (hparent : parent? path = some parent) : IsParent path parent := by
  revert hparent
  fun_cases parent? path with
  | case1 rest =>
    intro hparent
    obtain ⟨kept, hcut, rfl⟩ := Option.map_eq_some_iff.mp hparent
    exact .of_absolute hcut
  | case2 _ _ rest hpath kept hcut =>
    intro hparent
    obtain rfl := Option.some.inj hparent
    exact .of_dot hpath hcut
  | case3 _ hstart rest hpath hcut =>
    intro hparent
    obtain rfl := Option.some.inj hparent
    exact .of_lone_dot hstart hpath hcut
  | case4 _ hstart hother =>
    intro hparent
    obtain ⟨kept, hcut, rfl⟩ := Option.map_eq_some_iff.mp hparent
    exact .of_bare hstart hother hcut

theorem IsParent.length_lt (hparent : IsParent path parent) : parent.length < path.length := by
  obtain ⟨last, -, hlast⟩ := hparent.components
  have hne : path ≠ parent := by
    rintro rfl
    simpa using congrArg List.length hlast
  rcases hparent.spelling with rfl | rfl | ⟨behind, rfl⟩
  · exact List.length_pos_iff.mpr hne
  · obtain ⟨rest, rfl⟩ := List.head?_eq_some_iff.mp (hparent.head.mp rfl)
    have hrest : rest ≠ [] := by
      rintro rfl
      exact hne rfl
    simpa using List.length_pos_iff.mpr hrest
  · simp

/-! ### The way up -/

/-- What holds for a path if it holds for its parent holds for all paths if it holds at the top. -/
theorem upwardInduction {motive : Text → Prop} (top : ∀ path, parent? path = none → motive path)
    (step : ∀ path parent, parent? path = some parent → motive parent → motive path)
    (path : Text) : motive path := by
  induction hlength : path.length using Nat.strongRecOn generalizing path with
  | _ length ih =>
    cases hparent : parent? path with
    | none => exact top path hparent
    | some parent =>
      have hshorter := (isParent_of_parent? hparent).length_lt
      exact step path parent hparent (ih parent.length (hlength ▸ hshorter) parent rfl)

theorem ancestors_of_parent? (hparent : parent? path = some parent) :
    ancestors path = path :: ancestors parent := by
  rw [ancestors, hparent]
  simp only [if_pos (isParent_of_parent? hparent).length_lt]

theorem ancestors_of_topmost (hparent : parent? path = none) : ancestors path = [path] := by
  rw [ancestors, hparent]

/-- One of the ancestors lacks the components dropped on the way up to it; those before it have a
front of these. -/
theorem dropped_of_ancestors {directory : Text} {before after : List Text}
    (hancestors : ancestors path = before ++ directory :: after) :
    ∃ dropped, components path = components directory ++ dropped ∧ .root ∉ dropped ∧
      ∀ front, front <+: dropped → front ≠ [] →
        ∃ nearer ∈ before, components nearer = components directory ++ front := by
  induction before generalizing path with
  | nil =>
    have hfirst : path = directory := by
      rw [ancestors] at hancestors
      exact (List.cons_eq_cons.mp hancestors).1
    refine ⟨[], by rw [hfirst, List.append_nil], List.not_mem_nil, fun front hfront hne ↦ ?_⟩
    exact absurd (List.prefix_nil.mp hfront) hne
  | cons first before ih =>
    cases hparent : parent? path with
    | none =>
      rw [ancestors_of_topmost hparent] at hancestors
      simp at hancestors
    | some parent =>
      rw [ancestors_of_parent? hparent, List.cons_append, List.cons.injEq] at hancestors
      obtain ⟨rfl, hrest⟩ := hancestors
      obtain ⟨dropped, hdropped, hnone, hfronts⟩ := ih hrest
      obtain ⟨last, hroot, hlast⟩ := (isParent_of_parent? hparent).components
      refine ⟨dropped ++ [last], by rw [hlast, hdropped, List.append_assoc],
        by simpa [hnone] using hroot.symm, fun front hfront hne ↦ ?_⟩
      rcases List.prefix_concat_iff.mp hfront with rfl | hshorter
      · exact ⟨path, List.mem_cons_self, by rw [hlast, hdropped, List.append_assoc]⟩
      · obtain ⟨nearer, hnearer, heq⟩ := hfronts front hshorter hne
        exact ⟨nearer, List.mem_cons_of_mem _ hnearer, heq⟩

end Path

/-! ### Searching -/

theorem found_probe (accept : Text → Bool) (tried : List Candidate) :
    (probe accept tried).found = tried.find? fun candidate ↦ accept candidate.path := by
  induction tried with
  | nil => rfl
  | cons candidate tried ih =>
    rw [probe, List.find?_cons]
    cases accept candidate.path with
    | true => rfl
    | false => exact ih

/-- What a search finds is accepted, and no path tried before it is. -/
theorem of_search_found {start name : Text} {accept : Text → Bool} {candidate : Candidate}
    (hfound : (search start name accept).found = some candidate) :
    ∃ before directory after, Path.ancestors start = before ++ directory :: after ∧
      candidate = ⟨directory, Path.join directory name⟩ ∧
      accept (Path.join directory name) = true ∧
      ∀ nearer ∈ before, accept (Path.join nearer name) = false := by
  rw [search, found_probe, candidates, List.find?_eq_some_iff_append] at hfound
  obtain ⟨haccept, first, last, hsplit, hrefused⟩ := hfound
  obtain ⟨before, rest, hancestors, rfl, hrest⟩ := List.map_eq_append_iff.mp hsplit
  obtain ⟨directory, after, rfl, rfl, -⟩ := List.map_eq_cons_iff.mp hrest
  refine ⟨before, directory, after, hancestors, rfl, haccept, fun nearer hnearer ↦ ?_⟩
  simpa using hrefused _ (List.mem_map_of_mem hnearer)

end DevicetreeHeader.Files
