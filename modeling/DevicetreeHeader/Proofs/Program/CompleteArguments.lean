import DevicetreeHeader.Program.Arguments

/-!
# Complete arguments

An argument is complete if nothing has to follow it: the switch for notices, an option with its
value behind an equals sign, or a path. While arguments are read a path waits before it is taken
over. Where nothing waits, complete arguments are added one after the other (`Draft.add`), and
reading them comes to that: both stop for the same reason, or the draft that has been read is the
one that has been added up once it is settled. This holds of one argument (`Draft.settles_feed`)
and, by induction on the line for any two drafts of which one settles to the other, of a whole line
(`Draft.settles_foldlM_feed`).
-/

set_option autoImplicit false
set_option relaxedAutoImplicit false

namespace DevicetreeHeader.Program

/-! ### Arguments and their texts -/

/-- The word that names an option. -/
def Setting.word : Setting → Text
  | config => "config".toList
  | macroPrefix => "macro-prefix".toList
  | includeGuard => "include-guard".toList

/-- What an option is set to, by the path of a configuration file and a layer. -/
def Setting.value? (config : Option Text) (layer : Layer) : Setting → Option Text
  | .config => config
  | .macroPrefix => layer.get? .macroPrefix
  | .includeGuard => layer.get? .includeGuard

/-- A text is read as a path if it starts with no hyphen and is not empty, or is a hyphen alone. -/
def IsPath (text : Text) : Prop :=
  text = ['-'] ∨ text ≠ [] ∧ text.head? ≠ some '-'

instance (text : Text) : Decidable (IsPath text) :=
  inferInstanceAs (Decidable (_ ∨ _))

theorem IsPath.ne_cons_cons {text : Text} (htext : IsPath text) (c : Char) (rest : Text) :
    text ≠ '-' :: c :: rest := by
  rintro rfl
  obtain hhyphen | ⟨-, hhead⟩ := htext
  · cases hhyphen
  · exact hhead rfl

theorem IsPath.isEmpty_eq_false {text : Text} (htext : IsPath text) : text.isEmpty = false := by
  obtain rfl | ⟨hne, -⟩ := htext
  · rfl
  · exact List.isEmpty_eq_false_iff.mpr hne

/-- An argument that nothing has to follow. -/
inductive Argument
  /-- The switch for notices, as a word if `spelledOut` is set and as a letter otherwise. -/
  | switch (spelledOut : Bool)
  /-- An option with its value behind an equals sign. -/
  | option (setting : Setting) (value : Text)
  /-- The path of the input or the output. -/
  | path (name : Text)
  deriving DecidableEq, Repr

namespace Argument

/-- The text of an argument. -/
def text : Argument → Text
  | switch spelledOut => if spelledOut then "--verbose".toList else "-v".toList
  | option setting value => "--".toList ++ setting.word ++ '=' :: value
  | path name => name

/-- What an argument sets, if it is no path. -/
def flag? : Argument → Option Flag
  | switch _ => some .verbose
  | option setting _ => some (.setting setting)
  | path _ => none

/-- The path that an argument is. -/
def path? : Argument → Option Text
  | switch _ | option _ _ => none
  | path name => some name

end Argument

namespace Draft

variable {draft settled next : Draft}

/-! ### Setting an option -/

/-- The draft with an option set. -/
def put (draft : Draft) (value : Text) : Setting → Draft
  | .config => { draft with config := some value }
  | .macroPrefix => { draft with layer := draft.layer.set value .macroPrefix }
  | .includeGuard => { draft with layer := draft.layer.set value .includeGuard }

section Put

variable (draft) (value : Text) (setting : Setting)

@[simp]
theorem verbose_put : (draft.put value setting).verbose = draft.verbose := by
  cases setting <;> rfl

@[simp]
theorem paths_put : (draft.put value setting).paths = draft.paths := by
  cases setting <;> rfl

@[simp]
theorem waiting_put : (draft.put value setting).waiting = draft.waiting := by
  cases setting <;> rfl

@[simp]
theorem pathsOnly_put : (draft.put value setting).pathsOnly = draft.pathsOnly := by
  cases setting <;> rfl

theorem value?_put (other : Setting) :
    other.value? (draft.put value setting).config (draft.put value setting).layer =
      if other = setting then some value else other.value? draft.config draft.layer := by
  cases setting <;> cases other <;> rfl

end Put

theorem set_of_some {setting : Setting}
    (hset : (setting.value? draft.config draft.layer).isSome = true) (value : Text) :
    draft.set value setting = .error (.refused .conflict) := by
  cases setting <;> exact if_pos hset

theorem set_of_none {setting : Setting} {value : Text}
    (hfree : setting.value? draft.config draft.layer = none)
    (hvalue : setting = .config → value ≠ []) :
    draft.set value setting = .ok (draft.put value setting) := by
  have hnot : ¬ (setting.value? draft.config draft.layer).isSome = true := by simp [hfree]
  cases setting with
  | config =>
    exact (if_neg hnot).trans (if_neg fun hempty ↦ hvalue rfl (List.isEmpty_iff.mp hempty))
  | macroPrefix => exact if_neg hnot
  | includeGuard => exact if_neg hnot

theorem eq_of_setField {field : Field} {value : Text}
    (hset : set.setField draft value field = .ok next) :
    next = { draft with layer := draft.layer.set value field } := by
  rw [set.setField] at hset
  split at hset
  · cases hset
  · exact (Except.ok.inj hset).symm

theorem eq_put_of_set {setting : Setting} {value : Text}
    (hset : draft.set value setting = .ok next) : next = draft.put value setting := by
  cases setting with
  | config =>
    rw [set] at hset
    split at hset
    · cases hset
    split at hset
    · cases hset
    · exact (Except.ok.inj hset).symm
  | macroPrefix => exact eq_of_setField hset
  | includeGuard => exact eq_of_setField hset

/-! ### Reading and adding -/

theorem settle_of_waiting (hwaiting : draft.waiting = none) : draft.settle = .ok draft := by
  rw [settle, hwaiting]

/-- Nothing waits in a draft that has been settled, and it holds every path that had been read. -/
theorem of_settle (hsettle : draft.settle = .ok settled) : settled.waiting = none ∧
    settled.pathsOnly = draft.pathsOnly ∧ settled.paths.length = draft.pathCount := by
  obtain ⟨verbose, config, layer, paths, waiting, pathsOnly⟩ := draft
  match waiting with
  | none =>
    obtain rfl := Except.ok.inj hsettle
    exact ⟨rfl, rfl, rfl⟩
  | some (.value setting none) => cases hsettle
  | some (.value setting (some value)) =>
    obtain rfl := eq_put_of_set hsettle
    simp [pathCount]
  | some (.path name) =>
    rw [settle] at hsettle
    dsimp only at hsettle
    split at hsettle
    · cases hsettle
    · obtain rfl := Except.ok.inj hsettle
      simp [pathCount]

/-- Reading and adding stop for the same reason, or what has been read settles to what has been
added. -/
inductive Settles : Except Stop Draft → Except Stop Draft → Prop
  | error (stop : Stop) : Settles (.error stop) (.error stop)
  | ok {draft settled : Draft} (hsettle : draft.settle = .ok settled)
      (hopen : draft.pathsOnly = false) : Settles (.ok draft) (.ok settled)

theorem Settles.of_waiting (hwaiting : settled.waiting = none) (hopen : settled.pathsOnly = false) :
    Settles (.ok settled) (.ok settled) :=
  .ok (settle_of_waiting hwaiting) hopen

/-- Adds an argument to a draft in which nothing waits. -/
def add (draft : Draft) : Argument → Except Stop Draft
  | .switch _ =>
    if draft.verbose then .error (.refused .conflict) else .ok { draft with verbose := true }
  | .option setting value => draft.set value setting
  | .path name =>
    if 2 ≤ draft.paths.length then .error (.refused .unknownArgument)
    else .ok { draft with paths := draft.paths ++ [name] }

theorem feed_switch (hopen : draft.pathsOnly = false) (spelledOut : Bool) :
    draft.feed (Argument.switch spelledOut).text = draft.settle.bind fun settled ↦
      if settled.verbose then .error (.refused .conflict)
      else .ok { settled with verbose := true } := by
  unfold feed
  rw [if_neg (by simp [hopen])]
  cases spelledOut with
  | true => rfl
  | false =>
    show (draft.settle.bind _).bind _ = draft.settle.bind _
    cases draft.settle with
    | error stop => rfl
    | ok settled =>
      show Except.bind (if settled.verbose then _ else _) _ = if settled.verbose then _ else _
      split <;> rfl

theorem feed_option (hopen : draft.pathsOnly = false) (setting : Setting) (value : Text) :
    draft.feed (Argument.option setting value).text =
      draft.settle.bind fun settled ↦ settled.set value setting := by
  unfold feed
  rw [if_neg (by simp [hopen])]
  cases setting <;> rfl

/-- A path is read as one unless an option waits for its value. -/
theorem feed_path (hopen : draft.pathsOnly = false) (hsettle : draft.settle = .ok settled)
    {name : Text} (hname : IsPath name) : draft.feed name = draft.feedPath name := by
  have hwaiting : ∀ setting, draft.waiting ≠ some (.value setting none) := by
    intro setting hwaiting
    rw [settle, hwaiting] at hsettle
    cases hsettle
  unfold feed
  rw [if_neg (by simp [hopen])]
  split
  · exact absurd rfl (hname.ne_cons_cons _ _)
  · exact absurd rfl (hname.ne_cons_cons _ _)
  · exact absurd rfl (hname.ne_cons_cons _ _)
  · split
    · rename_i setting hvalue
      exact absurd hvalue (hwaiting setting)
    · rfl

/-- Reading an argument does to a draft what adding the argument does to the draft once settled. -/
theorem settles_feed (hsettle : draft.settle = .ok settled) (hopen : draft.pathsOnly = false)
    {argument : Argument} (hnames : ∀ name, argument = .path name → IsPath name) :
    Settles (draft.feed argument.text) (settled.add argument) := by
  obtain ⟨hwaiting, hopen', hcount⟩ := of_settle hsettle
  rw [hopen] at hopen'
  cases argument with
  | switch spelledOut =>
    rw [feed_switch hopen, hsettle, add]
    show Settles (if settled.verbose then _ else _) _
    split
    · exact .error _
    · exact .of_waiting hwaiting hopen'
  | option setting value =>
    rw [feed_option hopen, hsettle, add]
    show Settles (settled.set value setting) _
    cases hset : settled.set value setting with
    | error stop => exact .error stop
    | ok next =>
      obtain rfl := eq_put_of_set hset
      exact .of_waiting (by simp [hwaiting]) (by simp [hopen'])
  | path name =>
    have hname := hnames name rfl
    rw [Argument.text, feed_path hopen hsettle hname, feedPath, add, hcount]
    split
    · exact .error _
    · have htaken : settle { settled with waiting := some (.path name) } =
          .ok { settled with paths := settled.paths ++ [name] } := by
        simp only [settle, hname.isEmpty_eq_false, Bool.false_eq_true, if_false, hwaiting]
      rw [hsettle]
      exact .ok htaken hopen'

/-- Reading arguments comes to adding them one after the other. -/
theorem settles_foldlM_feed {line : List Argument} (hsettle : draft.settle = .ok settled)
    (hopen : draft.pathsOnly = false)
    (hnames : ∀ name ∈ line.filterMap Argument.path?, IsPath name) :
    Settles ((line.map Argument.text).foldlM feed draft) (line.foldlM add settled) := by
  induction line generalizing draft settled with
  | nil => exact .ok hsettle hopen
  | cons argument line ih =>
    rw [List.map_cons, List.foldlM_cons, List.foldlM_cons]
    have hrest : ∀ name ∈ line.filterMap Argument.path?, IsPath name := fun name hname ↦
      hnames name (((List.sublist_cons_self argument line).filterMap _).subset hname)
    have hfirst : ∀ name, argument = .path name → IsPath name := fun name hname ↦
      hnames name (List.mem_filterMap.mpr
        ⟨argument, List.mem_cons_self, congrArg Argument.path? hname⟩)
    have hstep := settles_feed hsettle hopen hfirst
    generalize draft.feed argument.text = first at hstep ⊢
    generalize settled.add argument = second at hstep ⊢
    cases hstep with
    | error stop => exact .error stop
    | ok hsettle hopen => exact ih hsettle hopen hrest

/-- Adds the arguments of a line one after the other. -/
def addAll (line : List Argument) : Except Stop Draft :=
  line.foldlM add {}

theorem addAll_concat (line : List Argument) (argument : Argument) :
    addAll (line ++ [argument]) = (addAll line).bind fun draft ↦ draft.add argument := by
  rw [addAll, List.foldlM_append, addAll]
  cases line.foldlM Draft.add {} with
  | error stop => rfl
  | ok draft => exact bind_pure (draft.add argument)

end Draft

namespace Arguments

theorem ofDraft_of_settles {first second : Except Stop Draft} (h : Draft.Settles first second) :
    first.bind ofDraft = second.bind ofDraft := by
  cases h with
  | error stop => rfl
  | @ok draft settled hsettle hopen =>
    have hwaiting := (Draft.of_settle hsettle).1
    show draft.settle.bind _ = settled.settle.bind _
    rw [hsettle, Draft.settle_of_waiting hwaiting]

/-- A line of complete arguments is read as what its arguments add up to. -/
theorem ofList_map_text {line : List Argument}
    (hnames : ∀ name ∈ line.filterMap Argument.path?, IsPath name) :
    ofList (line.map Argument.text) = (Draft.addAll line).bind ofDraft :=
  ofDraft_of_settles (Draft.settles_foldlM_feed rfl rfl hnames)

end Arguments

end DevicetreeHeader.Program
