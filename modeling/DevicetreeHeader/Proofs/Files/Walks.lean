import DevicetreeHeader.Proofs.Files.Ancestors
import DevicetreeHeader.Proofs.Files.Reading
import Mathlib.Data.List.Infix

/-!
# Walks along components

Where a walk ends is known from the components of its path: each of them moves the location
(`move`), and silent pieces do not (`destination_eq_foldl_step`). If a path leads to a directory,
so do all its ancestors (`leads_of_mem_ancestors`), and a name joined to it stands for the entry of
that name in the directory (`lookup_join`).

A component moves a location by one level, if it does not lead to the root. A walk that ends below
the location where it has started has therefore been at every location between the two
(`exists_front_of_between`); without two dots it does end there (`prefix_foldl_move`).
-/

set_option autoImplicit false
set_option relaxedAutoImplicit false

namespace DevicetreeHeader.Files

/-- Where a component leads from a location. -/
def move (location : Location) : Component → Location
  | .root => []
  | .here => location
  | .up => location.dropLast
  | .name text => location ++ [text]

/-- A walk that ends below its start leads to each location between the two after some moves. -/
theorem exists_front_of_between {holder between : Location} {moves : List Component}
    (habove : holder <+: between) (hne : between ≠ holder)
    (hbelow : between <+: moves.foldl move holder) :
    ∃ front, front <+: moves ∧ front ≠ [] ∧ front.foldl move holder = between := by
  induction moves using List.reverseRecOn with
  | nil => exact absurd (habove.eq_of_length_le hbelow.length_le).symm hne
  | append_singleton moves last ih =>
    by_cases hend : between = (moves ++ [last]).foldl move holder
    · exact ⟨moves ++ [last], List.prefix_rfl, by simp, hend.symm⟩
    · -- What is properly above the end is above the location before the last move.
      have hbefore : between <+: moves.foldl move holder := by
        rw [List.foldl_concat] at hbelow hend
        cases last with
        | root => exact absurd (List.prefix_nil.mp hbelow) hend
        | here => exact hbelow
        | up => exact hbelow.trans (List.dropLast_prefix _)
        | name text => exact (List.prefix_concat_iff.mp hbelow).resolve_left hend
      obtain ⟨front, hfront, hsome, heq⟩ := ih hbefore
      exact ⟨front, hfront.trans (List.prefix_append _ _), hsome, heq⟩

/-- Without two dots in it, a walk leads down. -/
theorem prefix_foldl_move {moves : List Component} (hroot : .root ∉ moves) (hup : .up ∉ moves)
    (holder : Location) : holder <+: moves.foldl move holder := by
  induction moves generalizing holder with
  | nil => exact List.prefix_rfl
  | cons first moves ih =>
    rw [List.mem_cons, not_or] at hroot hup
    have hfirst : holder <+: move holder first := by
      cases first with
      | root => exact absurd rfl hroot.1
      | here => exact List.prefix_rfl
      | up => exact absurd rfl hup.1
      | name text => exact List.prefix_append _ _
    exact hfirst.trans (ih hroot.2 hup.2 _)

/-- A text that is one piece of a path and names an entry. -/
structure IsName (name : Text) : Prop where
  slash : '/' ∉ name
  not_silent : Path.isSilent name = false
  ne_up : name ≠ ['.', '.']

namespace Tree

variable {tree : Tree} {path : Text} {here : Location}

/-! ### Destinations -/

theorem step_of_not_silent {piece : Text} (hpiece : Path.isSilent piece = false) (here : Location) :
    step here piece = move here (Path.component piece) := by
  rw [step, if_neg (by simp [hpiece]), Path.component]
  split
  · rfl
  · rfl

theorem foldl_step (here : Location) (pieces : List Text) :
    pieces.foldl step here = (Path.named pieces).foldl move here := by
  induction pieces generalizing here with
  | nil => rfl
  | cons piece pieces ih =>
    rw [List.foldl_cons, ih]
    cases hpiece : Path.isSilent piece with
    | true => rw [Path.named_cons_of_silent hpiece, step, if_pos hpiece]
    | false =>
      rw [step_of_not_silent hpiece, Path.named, Path.named,
        List.filter_cons_of_pos (by simp [hpiece]), List.map_cons, List.foldl_cons]

variable (tree path) in
/-- Where the components of a path lead. -/
def destination : Location :=
  (Path.components path).foldl move tree.workingDirectory

theorem start_of_relative (hhead : path.head? ≠ some '/') :
    tree.start path = tree.workingDirectory :=
  if_neg hhead

theorem destination_eq_foldl_step :
    tree.destination path = (path.splitOn '/').foldl step (tree.start path) := by
  rw [destination]
  fun_cases Path.components path with
  | case1 rest =>
    rw [Path.splitOn_slash_cons, foldl_step, Path.named_cons_of_silent rfl]
    rfl
  | case2 _ hstart rest hrest =>
    rw [hrest, start_of_relative (Path.head?_of_relative hstart), foldl_step,
      Path.named_cons_of_silent rfl]
    rfl
  | case3 _ hstart =>
    rw [start_of_relative (Path.head?_of_relative hstart), foldl_step]

theorem eq_of_resolve {pieces : List Text} {there : Location}
    (hwalk : tree.resolve here pieces = .ok there) : there = pieces.foldl step here := by
  induction pieces generalizing here with
  | nil => exact (Except.ok.inj hwalk).symm
  | cons piece pieces ih =>
    rw [resolve] at hwalk
    split at hwalk
    · cases hwalk
    · cases hwalk
    · exact ih hwalk

theorem exists_of_resolve_append {first last : List Text} {there : Location}
    (hwalk : tree.resolve here (first ++ last) = .ok there) :
    ∃ middle, tree.resolve here first = .ok middle ∧ tree.resolve middle last = .ok there := by
  rw [resolve_append] at hwalk
  cases hfirst : tree.resolve here first with
  | error cause =>
    rw [hfirst] at hwalk
    cases hwalk
  | ok middle =>
    rw [hfirst] at hwalk
    exact ⟨middle, rfl, hwalk⟩

theorem directory_of_resolve_cons {piece : Text} {pieces : List Text} {there : Location}
    (hwalk : tree.resolve here (piece :: pieces) = .ok there) :
    tree.entry? here = some .directory := by
  rw [resolve] at hwalk
  split at hwalk
  · cases hwalk
  · cases hwalk
  · assumption

/-! ### Paths that lead to directories -/

variable (tree path here) in
/-- A path can be walked and ends at a directory. The empty path does so at the working
directory. -/
structure Leads : Prop where
  walk : tree.resolve (tree.start path) (path.splitOn '/') = .ok here
  directory : tree.entry? here = some .directory

theorem Leads.eq_destination (hleads : Leads tree path here) : here = tree.destination path := by
  rw [destination_eq_foldl_step]
  exact eq_of_resolve hleads.walk

/-- What a path has behind the components of another leads from one directory to the other. -/
theorem Leads.foldl_move {upper : Text} {above : Location} {dropped : List Component}
    (hleads : Leads tree path here) (habove : Leads tree upper above)
    (hpath : Path.components path = Path.components upper ++ dropped) :
    dropped.foldl move above = here := by
  rw [hleads.eq_destination, habove.eq_destination, destination, destination, hpath,
    List.foldl_append]

theorem directory_of_above (hhere : here <+: tree.workingDirectory) :
    tree.entry? here = some .directory := by
  rw [ entry?, if_pos (List.isPrefixOf_iff_prefix.mpr hhere)]

theorem resolve_of_silent {pieces : List Text}
    (hpieces : ∀ piece ∈ pieces, Path.isSilent piece = true)
    (hdirectory : tree.entry? here = some .directory) : tree.resolve here pieces = .ok here := by
  induction pieces with
  | nil => rfl
  | cons piece pieces ih =>
    rw [List.forall_mem_cons] at hpieces
    rw [resolve, hdirectory, step, if_pos hpieces.1]
    exact ih hpieces.2

theorem leads_nil : Leads tree [] tree.workingDirectory where
  walk := resolve_of_silent (by decide) (directory_of_above List.prefix_rfl)
  directory := directory_of_above List.prefix_rfl

theorem leads_slash : Leads tree ['/'] [] where
  walk := resolve_of_silent (by decide) (directory_of_above List.nil_prefix)
  directory := directory_of_above List.nil_prefix

theorem walk_of_lookup {entry : Entry} (hlookup : tree.lookup path = .ok (here, entry)) :
    tree.resolve (tree.start path) (path.splitOn '/') = .ok here ∧
      tree.entry? here = some entry := by
  rw [lookup] at hlookup
  split at hlookup
  · cases hlookup
  split at hlookup
  · cases hlookup
  rename_i location hwalk
  split at hlookup
  · cases hlookup
  rename_i found hfound
  obtain ⟨rfl, rfl⟩ := Prod.mk.inj (Except.ok.inj hlookup)
  exact ⟨hwalk, hfound⟩

theorem leads_of_lookup (hlookup : tree.lookup path = .ok (here, .directory)) :
    Leads tree path here := by
  obtain ⟨hwalk, hdirectory⟩ := walk_of_lookup hlookup
  exact ⟨hwalk, hdirectory⟩

/-- A walk passes through the directory that the path above leads to. -/
theorem Leads.parent {parent : Text} (hleads : Leads tree path here)
    (hparent : Path.IsParent path parent) : ∃ above, Leads tree parent above := by
  rcases hparent.spelling with rfl | rfl | ⟨behind, hbehind⟩
  · exact ⟨_, leads_nil⟩
  · exact ⟨_, leads_slash⟩
  · have hstart : tree.start path = tree.start parent := by
      rw [start, start]
      simp only [hparent.head]
    have hwalk := hleads.walk
    obtain ⟨piece, later, hpieces⟩ := List.exists_cons_of_ne_nil (List.splitOn_ne_nil '/' behind)
    rw [hstart, hbehind, List.splitOn_append_cons_self, hpieces] at hwalk
    obtain ⟨above, habove, hrest⟩ := exists_of_resolve_append hwalk
    exact ⟨above, habove, directory_of_resolve_cons hrest⟩

theorem leads_of_mem_ancestors {directory : Text} (hleads : Leads tree path here)
    (hdirectory : directory ∈ Path.ancestors path) : ∃ there, Leads tree directory there := by
  induction path using Path.upwardInduction generalizing here with
  | top path hparent =>
    rw [Path.ancestors_of_topmost hparent, List.mem_singleton] at hdirectory
    exact ⟨here, hdirectory ▸ hleads⟩
  | step path parent hparent ih =>
    rw [Path.ancestors_of_parent? hparent, List.mem_cons] at hdirectory
    rcases hdirectory with rfl | hhigher
    · exact ⟨here, hleads⟩
    · obtain ⟨above, habove⟩ := hleads.parent (Path.isParent_of_parent? hparent)
      exact ih habove hhigher

/-! ### Names joined to directories -/

/-- A slash at the end of a path does not change where it leads. -/
theorem resolve_of_slash {front : Text} (hleads : Leads tree (front ++ ['/']) here) :
    tree.resolve (tree.start (front ++ ['/'])) (front.splitOn '/') = .ok here := by
  have hwalk := hleads.walk
  rw [List.splitOn_append_cons_self] at hwalk
  obtain ⟨middle, hmiddle, hrest⟩ := exists_of_resolve_append hwalk
  have hhere : here = [[]].foldl step middle := eq_of_resolve hrest
  exact hmiddle.trans (congrArg Except.ok hhere.symm)

theorem start_append {rest : Text} (hpath : path ≠ []) :
    tree.start (path ++ rest) = tree.start path := by
  rw [start, start, List.head?_append_of_ne_nil _ hpath]

/-- A joined path is walked like the path of the directory, and then by the name. -/
theorem resolve_join {name : Text} (hname : IsName name) (hleads : Leads tree path here) :
    tree.resolve (tree.start (Path.join path name)) ((Path.join path name).splitOn '/') =
      .ok (here ++ [name]) := by
  have hstep : tree.resolve here [name] = .ok (here ++ [name]) := by
    rw [resolve, hleads.directory]
    simp [resolve, step, hname.not_silent, hname.ne_up]
  have hhead : name.head? ≠ some '/' := fun hhead ↦ by
    obtain ⟨rest, rfl⟩ := List.head?_eq_some_iff.mp hhead
    exact hname.slash List.mem_cons_self
  have hpieces : name.splitOn '/' = [name] := List.splitOn_eq_singleton hname.slash
  rw [Path.join, if_neg hhead]
  by_cases hempty : path = []
  · subst hempty
    obtain rfl := hleads.eq_destination
    rw [if_pos (.inl rfl), List.nil_append, hpieces, start_of_relative hhead]
    exact hstep
  by_cases hslash : path.getLast? = some '/'
  · obtain ⟨front, rfl⟩ := List.getLast?_eq_some_iff.mp hslash
    rw [if_pos (.inr hslash), start_append hempty, List.append_assoc, List.singleton_append,
      List.splitOn_append_cons_self, hpieces, resolve_append, resolve_of_slash hleads]
    exact hstep
  · rw [if_neg (by simp [hempty, hslash]), start_append hempty, List.splitOn_append_cons_self,
      hpieces, resolve_append, hleads.walk]
    exact hstep

/-- A joined path leads to the entry of that name in the directory. -/
theorem lookup_join {name : Text} (hname : IsName name) (hleads : Leads tree path here) :
    tree.lookup (Path.join path name) =
      match tree.entry? (here ++ [name]) with
      | none => .error .notFound
      | some entry => .ok (here ++ [name], entry) := by
  have hjoin : Path.join path name ≠ [] := by
    have hne : name ≠ [] := by
      rintro rfl
      exact absurd hname.not_silent (by decide)
    rw [Path.join]
    split_ifs
    · exact hne
    · simp [hne]
    · simp
  cases hentry : tree.entry? (here ++ [name]) with
  | none => simp only [lookup, if_neg hjoin, resolve_join hname hleads, hentry]
  | some entry => simp only [lookup, if_neg hjoin, resolve_join hname hleads, hentry]

theorem isFile_join {name : Text} (hname : IsName name) (hleads : Leads tree path here) :
    tree.disk.isFile (Path.join path name) = true ↔
      ∃ content, tree.entry? (here ++ [name]) = some (.file content) := by
  rw [isFile_iff, LeadsToFile, lookup_join hname hleads]
  cases tree.entry? (here ++ [name]) with
  | none => simp
  | some entry => simp

end Tree

end DevicetreeHeader.Files
