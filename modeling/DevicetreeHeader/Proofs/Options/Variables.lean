import DevicetreeHeader.Options.Environment
import Mathlib.Data.List.Perm.Basic

/-!
# Which variables set options

A variable sets the field whose name stands behind its markers, however many there are and whatever
the case of the letters (`field?_eq_some_iff`); no letter outside ASCII has a lower case among those
of the two names. An environment makes a layer if each field is left alone or set by one variable,
which then decides it (`layer_eq_ok_iff`). That is said about the variables of each field alone, and
so neither the order of the variables nor those that set nothing can make a difference
(`layer_order_free`).
-/

set_option autoImplicit false
set_option relaxedAutoImplicit false

namespace DevicetreeHeader.Environment

/-! ### Names of variables -/

/-- The name of a field behind the markers of a variable. -/
def word : Field → Text
  | .macroPrefix => "macro_prefix".toList
  | .includeGuard => "include_guard".toList

/-- A variable of the name sets the field: its name starts with the marker, and what is left when
the marker has been taken off as often as it repeats is, in lower case, the name of the field. -/
def Names (field : Field) (name : Text) : Prop :=
  ∃ count rest, name = (List.replicate (count + 1) marker).flatten ++ rest ∧
    ¬ marker <+: rest ∧ rest.map Char.toLower = word field

theorem withoutMarkers_marker_append (rest : Text) :
    withoutMarkers (marker ++ rest) = withoutMarkers rest := by
  rw [show marker = ['D', 'T', '_', 'H', 'E', 'A', 'D', 'E', 'R', '_'] from rfl]
  exact withoutMarkers.eq_1 rest

theorem withoutMarkers_of_not_prefix {name : Text} (hname : ¬ marker <+: name) :
    withoutMarkers name = name := by
  fun_cases withoutMarkers name with
  | case1 rest => exact absurd (List.prefix_append marker rest) hname
  | case2 => rfl

theorem withoutMarkers_flatten_append {rest : Text} (hrest : ¬ marker <+: rest) (count : Nat) :
    withoutMarkers ((List.replicate count marker).flatten ++ rest) = rest := by
  induction count with
  | zero => exact withoutMarkers_of_not_prefix hrest
  | succ count ih =>
    rw [List.replicate_succ, List.flatten_cons, List.append_assoc, withoutMarkers_marker_append, ih]

/-- A name is what is left without its markers, with some markers in front of it. -/
theorem exists_markers (name : Text) : ¬ marker <+: withoutMarkers name ∧
    ∃ count, name = (List.replicate count marker).flatten ++ withoutMarkers name := by
  fun_induction withoutMarkers name with
  | case1 rest ih =>
    obtain ⟨hrest, count, hcount⟩ := ih
    refine ⟨hrest, count + 1, ?_⟩
    rw [List.replicate_succ, List.flatten_cons, List.append_assoc, ← hcount]
    rfl
  | case2 name hname =>
    exact ⟨fun ⟨rest, hrest⟩ ↦ hname rest hrest.symm, 0, rfl⟩

theorem word_injective : Function.Injective word := by
  rintro (_ | _) (_ | _) hword
  · rfl
  · exact absurd hword (by decide)
  · exact absurd hword (by decide)
  · rfl

theorem field?_eq_some_iff_word {name : Text} {field : Field} : field? name = some field ↔
    marker <+: name ∧ (withoutMarkers name).map Char.toLower = word field := by
  rw [field?]
  split
  · rename_i hmarker
    rw [and_iff_right (List.isPrefixOf_iff_prefix.mp hmarker)]
    dsimp only
    split
    · rename_i hword
      rw [hword, Option.some_inj]
      exact word_injective.eq_iff.symm
    split
    · rename_i hword
      rw [hword, Option.some_inj]
      exact word_injective.eq_iff.symm
    · rename_i hprefix hguard
      cases field with
      | macroPrefix => exact ⟨nofun, fun hword ↦ absurd hword hprefix⟩
      | includeGuard => exact ⟨nofun, fun hword ↦ absurd hword hguard⟩
  · rename_i hmarker
    exact ⟨nofun, fun hname ↦ absurd (List.isPrefixOf_iff_prefix.mpr hname.1) hmarker⟩

theorem field?_eq_some_iff {name : Text} {field : Field} :
    field? name = some field ↔ Names field name := by
  rw [field?_eq_some_iff_word]
  constructor
  · rintro ⟨hmarker, hword⟩
    obtain ⟨hrest, count, hcount⟩ := exists_markers name
    cases count with
    | zero =>
      have hname : name = withoutMarkers name := hcount
      rw [← hname] at hrest
      exact absurd hmarker hrest
    | succ count => exact ⟨count, withoutMarkers name, hcount, hrest, hword⟩
  · rintro ⟨count, rest, rfl, hrest, hword⟩
    refine ⟨?_, by rwa [withoutMarkers_flatten_append hrest]⟩
    rw [List.replicate_succ, List.flatten_cons, List.append_assoc]
    exact List.prefix_append _ _

instance (field : Field) (name : Text) : Decidable (Names field name) :=
  decidable_of_iff _ field?_eq_some_iff

/-! ### What an environment makes -/

/-- The variables of an environment that set a field. -/
def setters (field : Field) (environment : Environment) : Environment :=
  environment.filter fun entry ↦ Names field entry.1

theorem setters_cons_of_ne {field : Field} {name value : Text}
    (hfield : field? name ≠ some field) (environment : Environment) :
    setters field ((name, value) :: environment) = setters field environment :=
  List.filter_cons_of_neg (by simpa [← field?_eq_some_iff] using hfield)

theorem setters_cons_self {field : Field} {name value : Text}
    (hfield : field? name = some field) (environment : Environment) :
    setters field ((name, value) :: environment) = (name, value) :: setters field environment :=
  List.filter_cons_of_pos (by simpa [← field?_eq_some_iff] using hfield)

/-- Variables give a field a value that it did not have, or they leave it alone. -/
def Gives (given : Environment) (old new : Option Text) : Prop :=
  given = [] ∧ new = old ∨ old = none ∧ ∃ name value, given = [(name, value)] ∧ new = some value

theorem not_gives_cons {entry : Text × Text} {given : Environment} {old new : Option Text}
    (hold : old.isSome = true) : ¬ Gives (entry :: given) old new := by
  rintro (⟨hnone, -⟩ | ⟨rfl, -⟩)
  · cases hnone
  · cases hold

theorem gives_cons_iff {name value : Text} {given : Environment} {new : Option Text} :
    Gives ((name, value) :: given) none new ↔ Gives given (some value) new := by
  constructor
  · rintro (⟨hnone, -⟩ | ⟨-, other, content, hsingle, hnew⟩)
    · cases hnone
    · obtain ⟨hentry, hrest⟩ := List.cons_eq_cons.mp hsingle
      obtain ⟨rfl, rfl⟩ := Prod.mk.inj hentry
      exact .inl ⟨hrest, hnew⟩
  · rintro (⟨rfl, rfl⟩ | ⟨hnone, -⟩)
    · exact .inr ⟨rfl, name, value, rfl, rfl⟩
    · cases hnone

theorem gives_congr_of_perm {given others : Environment} (hperm : others.Perm given)
    {old new : Option Text} : Gives others old new ↔ Gives given old new := by
  have hnone : others = [] ↔ given = [] := by
    rw [← List.perm_nil, ← List.perm_nil]
    exact ⟨hperm.symm.trans, hperm.trans⟩
  have hsingle (entry : Text × Text) : others = [entry] ↔ given = [entry] := by
    rw [← List.perm_singleton, ← List.perm_singleton]
    exact ⟨hperm.symm.trans, hperm.trans⟩
  simp only [Gives, hnone, hsingle]

variable {layer result : Layer} {environment : Environment}

/-- A variable that sets a free field is taken into the layer; whether the variables give each field
its value does not change. -/
theorem gives_setters_cons_iff {name value : Text} {field : Field}
    (hfield : field? name = some field) (hfree : layer.get? field = none) (other : Field)
    (new : Option Text) :
    Gives (setters other ((name, value) :: environment)) (layer.get? other) new ↔
      Gives (setters other environment) ((layer.set value field).get? other) new := by
  rw [Layer.get?_set]
  split
  · rename_i hother
    rw [hother, setters_cons_self hfield, hfree, gives_cons_iff]
  · rename_i hother
    have hne : field? name ≠ some other := by simpa [hfield] using Ne.symm hother
    rw [setters_cons_of_ne hne]

/-- Adding variables to a layer makes another exactly if they give each field its value there. -/
theorem addTo_eq_ok_iff : addTo layer environment = .ok result ↔
    ∀ field, Gives (setters field environment) (layer.get? field) (result.get? field) := by
  induction environment generalizing layer with
  | nil =>
    rw [addTo, Except.ok.injEq, Layer.ext_get?_iff]
    simp [Gives, setters, eq_comm]
  | cons entry environment ih =>
    obtain ⟨name, value⟩ := entry
    rw [addTo]
    split
    · rename_i hnone
      have hne (field : Field) : field? name ≠ some field := by simp [hnone]
      simp only [ih, setters_cons_of_ne (hne _)]
    · rename_i field hfield
      split
      · rename_i hset
        refine ⟨nofun, fun hgives ↦ ?_⟩
        have hself := hgives field
        rw [setters_cons_self hfield] at hself
        exact absurd hself (not_gives_cons hset)
      · rename_i hset
        simp only [ih, gives_setters_cons_iff hfield (Option.not_isSome_iff_eq_none.mp hset)]

/-- The field of an error is one to which the variables cannot give a value. -/
theorem not_gives_of_addTo_eq_error {field : Field}
    (herror : addTo layer environment = .error field) (new : Option Text) :
    ¬ Gives (setters field environment) (layer.get? field) new := by
  induction environment generalizing layer with
  | nil => cases herror
  | cons entry environment ih =>
    obtain ⟨name, value⟩ := entry
    rw [addTo] at herror
    split at herror
    · rename_i hnone
      rw [setters_cons_of_ne (by simp [hnone])]
      exact ih herror
    · rename_i other hother
      split at herror
      · rename_i hset
        obtain rfl := Except.error.inj herror
        rw [setters_cons_self hother]
        exact not_gives_cons hset
      · rename_i hset
        rw [gives_setters_cons_iff hother (Option.not_isSome_iff_eq_none.mp hset)]
        exact ih herror

/-- Variables that set nothing are passed over. -/
theorem addTo_filter (layer : Layer) (environment : Environment) :
    addTo layer (environment.filter fun entry ↦
      Names .macroPrefix entry.1 ∨ Names .includeGuard entry.1) = addTo layer environment := by
  induction environment generalizing layer with
  | nil => rfl
  | cons entry environment ih =>
    obtain ⟨name, value⟩ := entry
    cases hfield : field? name with
    | none =>
      rw [List.filter_cons_of_neg (by simp [← field?_eq_some_iff, hfield]), ih, addTo, hfield]
    | some field =>
      have hsets : Names .macroPrefix name ∨ Names .includeGuard name := by
        cases field with
        | macroPrefix => exact .inl (field?_eq_some_iff.mp hfield)
        | includeGuard => exact .inr (field?_eq_some_iff.mp hfield)
      rw [List.filter_cons_of_pos (by simpa using hsets), addTo, addTo, hfield]
      simp only [ih]

/-! ### The layer of an environment -/

theorem layer_eq_ok_iff : environment.layer = .ok layer ↔
    ∀ field, Gives (setters field environment) none (layer.get? field) := by
  rw [Environment.layer, addTo_eq_ok_iff]
  exact forall_congr' fun field ↦ by cases field <;> rfl

theorem not_gives_of_layer_eq_error {field : Field} (herror : environment.layer = .error field)
    (new : Option Text) : ¬ Gives (setters field environment) none new := by
  have hnot := not_gives_of_addTo_eq_error herror new
  cases field <;> exact hnot

/-- Two variables set the same field. -/
def Doubled (field : Field) (environment : Environment) : Prop :=
  ∃ first ∈ environment, ∃ second ∈ environment,
    first.1 ≠ second.1 ∧ Names field first.1 ∧ Names field second.1

theorem mem_setters {field : Field} {entry : Text × Text} :
    entry ∈ setters field environment ↔ entry ∈ environment ∧ Names field entry.1 := by
  rw [setters, List.mem_filter, decide_eq_true_eq]

theorem not_gives_of_doubled {field : Field} (hdoubled : Doubled field environment)
    (new : Option Text) : ¬ Gives (setters field environment) none new := by
  obtain ⟨first, hfirst, second, hsecond, hne, hnames⟩ := hdoubled
  have hmem : first ∈ setters field environment := mem_setters.mpr ⟨hfirst, hnames.1⟩
  have hother : second ∈ setters field environment := mem_setters.mpr ⟨hsecond, hnames.2⟩
  rintro (⟨hnone, -⟩ | ⟨-, name, value, hsingle, -⟩)
  · rw [hnone] at hmem
    cases hmem
  · rw [hsingle, List.mem_singleton] at hmem hother
    exact hne (by rw [hmem, hother])

/-- With distinct names, a field that gets no value is set by two variables. -/
theorem doubled_of_not_gives {field : Field} (hnames : environment.keys.Nodup)
    (hnot : ∀ new, ¬ Gives (setters field environment) none new) : Doubled field environment := by
  cases hsetters : setters field environment with
  | nil => exact absurd (.inl ⟨hsetters, rfl⟩) (hnot none)
  | cons first rest =>
    cases rest with
    | nil => exact absurd (.inr ⟨rfl, first.1, first.2, hsetters, rfl⟩) (hnot (some first.2))
    | cons second rest =>
      have hdistinct : (setters field environment).keys.Nodup :=
        hnames.sublist (List.filter_sublist.map Prod.fst)
      rw [hsetters] at hdistinct
      have hne : first.1 ≠ second.1 := fun heq ↦
        (List.nodup_cons.mp hdistinct).1 (heq ▸ List.mem_cons_self)
      have hmem : ∀ entry ∈ first :: second :: rest, entry ∈ environment ∧ Names field entry.1 :=
        fun entry hentry ↦ mem_setters.mp (hsetters ▸ hentry)
      obtain ⟨hfirst, hsets⟩ := hmem first List.mem_cons_self
      obtain ⟨hsecond, halso⟩ := hmem second (List.mem_cons_of_mem _ List.mem_cons_self)
      exact ⟨first, hfirst, second, hsecond, hne, hsets, halso⟩

theorem get?_eq_some_iff_of_layer (hlayer : environment.layer = .ok layer) (field : Field)
    (value : Text) : layer.get? field = some value ↔
      ∃ name, (name, value) ∈ environment ∧ Names field name := by
  have hmem : (∃ name, (name, value) ∈ environment ∧ Names field name) ↔
      ∃ name, (name, value) ∈ setters field environment := by
    simp only [mem_setters]
  rw [hmem]
  rcases layer_eq_ok_iff.mp hlayer field with ⟨hnone, hvalue⟩ | ⟨-, name, given, hsingle, hvalue⟩
  · simp [hnone, hvalue]
  · simp [hsingle, hvalue, eq_comm]

/-- An environment makes no layer exactly if two of its variables set the same field; in the layer
that it makes otherwise, each field has the value of the variable that sets it, if there is one.
Another order of the variables makes the same layer or none, and variables that set nothing change
nothing. -/
theorem layer_order_free (environment : Environment) (hnames : environment.keys.Nodup) :
    ((∃ field, environment.layer = .error field) ↔
      Doubled .macroPrefix environment ∨ Doubled .includeGuard environment) ∧
    (∀ layer, environment.layer = .ok layer → ∀ field value, layer.get? field = some value ↔
      ∃ name, (name, value) ∈ environment ∧ Names field name) ∧
    (∀ other : Environment, other.Perm environment →
      ∀ layer, other.layer = .ok layer ↔ environment.layer = .ok layer) ∧
    ∀ other : Environment,
      (other.filter fun entry ↦ Names .macroPrefix entry.1 ∨ Names .includeGuard entry.1) =
        (environment.filter fun entry ↦
          Names .macroPrefix entry.1 ∨ Names .includeGuard entry.1) →
      other.layer = environment.layer := by
  refine ⟨⟨?_, ?_⟩, fun layer ↦ get?_eq_some_iff_of_layer, fun other hperm layer ↦ ?_,
    fun other hfilter ↦ ?_⟩
  · rintro ⟨field, herror⟩
    have hdoubled := doubled_of_not_gives hnames (not_gives_of_layer_eq_error herror)
    cases field with
    | macroPrefix => exact .inl hdoubled
    | includeGuard => exact .inr hdoubled
  · intro hdoubled
    cases hlayer : environment.layer with
    | error field => exact ⟨field, rfl⟩
    | ok layer =>
      have hgives := layer_eq_ok_iff.mp hlayer
      rcases hdoubled with hdoubled | hdoubled
      · exact absurd (hgives .macroPrefix) (not_gives_of_doubled hdoubled _)
      · exact absurd (hgives .includeGuard) (not_gives_of_doubled hdoubled _)
  · rw [layer_eq_ok_iff, layer_eq_ok_iff]
    exact forall_congr' fun field ↦ gives_congr_of_perm (hperm.filter _)
  · rw [Environment.layer, Environment.layer, ← addTo_filter, hfilter, addTo_filter]

/-- The marker stands twice in the first name, a marker in lower case is none, and an empty text is
a value. -/
def mixedEnvironment : Environment :=
  [("DT_HEADER_DT_HEADER_Macro_PREFIX".toList, "SOC".toList),
    ("dt_header_macro_prefix".toList, "X".toList), ("DT_HEADER_INCLUDE_GUARD".toList, [])]

theorem layer_order_free_mixedEnvironment :
    mixedEnvironment.keys.Nodup ∧
    Environment.layer mixedEnvironment = .ok ⟨some "SOC".toList, some []⟩ ∧
    (∃ name, (name, []) ∈ mixedEnvironment ∧ Names .includeGuard name) ∧
    Environment.layer mixedEnvironment.reverse = .ok ⟨some "SOC".toList, some []⟩ ∧
    Environment.layer (mixedEnvironment.eraseIdx 1) = Environment.layer mixedEnvironment := by
  have hnames : mixedEnvironment.keys.Nodup := by decide
  have hlayer : Environment.layer mixedEnvironment = .ok ⟨some "SOC".toList, some []⟩ := by decide
  obtain ⟨-, hvalues, horder, hothers⟩ := layer_order_free mixedEnvironment hnames
  exact ⟨hnames, hlayer, (hvalues _ hlayer .includeGuard []).mp rfl,
    (horder _ (List.reverse_perm _) _).mpr hlayer, hothers _ (by decide)⟩

end DevicetreeHeader.Environment
