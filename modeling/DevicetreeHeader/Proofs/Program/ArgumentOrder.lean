import DevicetreeHeader.Proofs.Program.CompleteArguments
import Mathlib.Data.List.Induction
import Mathlib.Data.List.Perm.Basic

/-!
# The order of arguments

A line of complete arguments is taken over if no two of them set the same and at most two are paths.
What a draft then holds can be said by membership, the order of the two paths apart (`Draft.Shows`).
An argument that is added keeps this up (`Draft.Shows.add`), one that sets something again is a
conflict (`Draft.Shows.add_again`), and a third path is one too many (`Draft.Shows.add_third`),
whatever stands around it (`Draft.addAll_of_third`). So every line with the same arguments, and the
paths in the same order, is read as the same command line (`Arguments.ofList_order_free`).
-/

set_option autoImplicit false
set_option relaxedAutoImplicit false

namespace DevicetreeHeader.Program

namespace Draft

variable {draft : Draft}

/-! ### What a draft shows -/

/-- A draft shows a line: what its arguments set, and its paths in order. -/
structure Shows (draft : Draft) (line : List Argument) : Prop where
  verbose : draft.verbose = true ↔ Flag.verbose ∈ line.filterMap Argument.flag?
  value (setting : Setting) (value : Text) :
    setting.value? draft.config draft.layer = some value ↔ .option setting value ∈ line
  paths : draft.paths = line.filterMap Argument.path?
  waiting : draft.waiting = none

variable {line : List Argument}

theorem shows_nil : Shows {} [] where
  verbose := by simp
  value setting value := by cases setting <;> exact ⟨nofun, nofun⟩
  paths := rfl
  waiting := rfl

namespace Shows

/-- An option is set exactly if it is among the arguments. -/
theorem isSome_value?_iff (hshows : draft.Shows line) (setting : Setting) :
    (setting.value? draft.config draft.layer).isSome = true ↔
      .setting setting ∈ line.filterMap Argument.flag? := by
  rw [Option.isSome_iff_exists, List.mem_filterMap]
  constructor
  · rintro ⟨value, hvalue⟩
    exact ⟨_, (hshows.value setting value).mp hvalue, rfl⟩
  · rintro ⟨argument, hmem, hflag⟩
    cases argument with
    | switch spelledOut => cases hflag
    | option other value =>
      cases hflag
      exact ⟨value, (hshows.value setting value).mpr hmem⟩
    | path name => cases hflag

/-- Nothing is set twice. -/
theorem add_again (hshows : draft.Shows line) {argument : Argument} {flag : Flag}
    (hflag : argument.flag? = some flag) (hagain : flag ∈ line.filterMap Argument.flag?) :
    draft.add argument = .error (.refused .conflict) := by
  cases argument with
  | switch spelledOut =>
    cases hflag
    exact if_pos (hshows.verbose.mpr hagain)
  | option setting value =>
    cases hflag
    exact set_of_some ((hshows.isSome_value?_iff setting).mpr hagain) value
  | path name => cases hflag

/-- There is no third path. -/
theorem add_third (hshows : draft.Shows line)
    (hpaths : 2 ≤ (line.filterMap Argument.path?).length) (name : Text) :
    draft.add (.path name) = .error (.refused .unknownArgument) :=
  if_pos (by rwa [hshows.paths])

/-- An argument that sets something new, and a path that is no third one, are taken over. -/
theorem add (hshows : draft.Shows line) {argument : Argument}
    (hconfig : argument ≠ .option .config [])
    (hflags : ((line ++ [argument]).filterMap Argument.flag?).Nodup)
    (hpaths : ((line ++ [argument]).filterMap Argument.path?).length ≤ 2) :
    ∃ next, draft.add argument = .ok next ∧ next.Shows (line ++ [argument]) := by
  have hnew : ∀ flag, argument.flag? = some flag → flag ∉ line.filterMap Argument.flag? := by
    intro flag hflag hmem
    rw [List.filterMap_append, List.filterMap_cons_some hflag] at hflags
    exact (List.nodup_append.mp hflags).2.2 flag hmem flag List.mem_cons_self rfl
  cases argument with
  | switch spelledOut =>
    have hoff : ¬ draft.verbose = true := fun hon ↦ hnew .verbose rfl (hshows.verbose.mp hon)
    refine ⟨{ draft with verbose := true }, if_neg hoff, ?_, ?_, ?_, hshows.waiting⟩
    · simp [Argument.flag?]
    · simpa using hshows.value
    · simpa [List.filterMap_cons, Argument.path?] using hshows.paths
  | option setting value =>
    have hunset : ¬ (setting.value? draft.config draft.layer).isSome = true := fun hset ↦
      hnew _ rfl ((hshows.isSome_value?_iff setting).mp hset)
    have hfree := Option.not_isSome_iff_eq_none.mp hunset
    have hvalue : setting = .config → value ≠ [] := by
      rintro rfl rfl
      exact hconfig rfl
    refine ⟨draft.put value setting, set_of_none hfree hvalue, ?_, ?_, ?_, ?_⟩
    · simpa [Argument.flag?] using hshows.verbose
    · intro other content
      rw [value?_put, List.mem_append, List.mem_singleton, Argument.option.injEq]
      split
      · rename_i hother
        subst hother
        have habsent : .option other content ∉ line := fun hmem ↦
          hunset (Option.isSome_of_eq_some ((hshows.value other content).mpr hmem))
        simp [habsent, eq_comm]
      · rename_i hother
        simp [hshows.value, hother]
    · simpa [List.filterMap_cons, Argument.path?] using hshows.paths
    · simpa using hshows.waiting
  | path name =>
    have hroom : ¬ 2 ≤ draft.paths.length := by
      rw [List.filterMap_append, List.length_append] at hpaths
      rw [hshows.paths]
      exact Nat.not_le_of_lt hpaths
    refine ⟨{ draft with paths := draft.paths ++ [name] }, if_neg hroom, ?_, ?_, ?_,
      hshows.waiting⟩
    · simpa [Argument.flag?] using hshows.verbose
    · simpa using hshows.value
    · simp [Argument.path?, hshows.paths]

end Shows

/-- Arguments of which no two set the same and at most two are paths can all be added, if no
configuration file has an empty path. -/
theorem exists_shows (hconfig : .option .config [] ∉ line)
    (hflags : (line.filterMap Argument.flag?).Nodup)
    (hpaths : (line.filterMap Argument.path?).length ≤ 2) :
    ∃ draft, addAll line = .ok draft ∧ draft.Shows line := by
  induction line using List.reverseRecOn with
  | nil => exact ⟨{}, rfl, shows_nil⟩
  | append_singleton line argument ih =>
    have hfront := List.sublist_append_left line [argument]
    obtain ⟨draft, hdraft, hshows⟩ := ih (fun hmem ↦ hconfig (hfront.subset hmem))
      (hflags.sublist (hfront.filterMap _)) (Nat.le_trans (hfront.filterMap _).length_le hpaths)
    have hargument : argument ≠ .option .config [] := by
      rintro rfl
      exact hconfig (List.mem_append_right _ List.mem_cons_self)
    obtain ⟨next, hnext, hshows'⟩ := hshows.add hargument hflags hpaths
    refine ⟨next, ?_, hshows'⟩
    rw [addAll_concat, hdraft]
    exact hnext

/-- A third path is one too many, whatever stands around the three. -/
theorem addAll_of_third (hconfig : .option .config [] ∉ line)
    (hflags : (line.filterMap Argument.flag?).Nodup)
    (hpaths : 2 < (line.filterMap Argument.path?).length) :
    addAll line = .error (.refused .unknownArgument) := by
  induction line using List.reverseRecOn with
  | nil => cases hpaths
  | append_singleton line argument ih =>
    have hfront := List.sublist_append_left line [argument]
    have hconfig' : .option .config [] ∉ line := fun hmem ↦ hconfig (hfront.subset hmem)
    have hflags' := hflags.sublist (hfront.filterMap Argument.flag?)
    rw [addAll_concat]
    by_cases hearlier : 2 < (line.filterMap Argument.path?).length
    · rw [ih hconfig' hflags' hearlier]
      rfl
    · obtain ⟨draft, hdraft, hshows⟩ := exists_shows hconfig' hflags' (Nat.le_of_not_lt hearlier)
      rw [hdraft]
      cases argument with
      | switch _ | option _ _ =>
        rw [List.filterMap_append, List.filterMap_cons_none rfl, List.filterMap_nil,
          List.append_nil] at hpaths
        exact absurd hpaths hearlier
      | path name =>
        refine hshows.add_third ?_ name
        rw [List.filterMap_append, List.length_append] at hpaths
        exact Nat.le_of_lt_succ hpaths

end Draft

namespace Arguments

/-! ### Command lines written out -/

/-- The arguments for what a command line sets, with the switch in one of its spellings. -/
def options (arguments : Arguments) (spelledOut : Bool) : List Argument :=
  (if arguments.verbose then [.switch spelledOut] else []) ++
    [Setting.config, .macroPrefix, .includeGuard].filterMap fun setting ↦
      (setting.value? arguments.request.config arguments.request.layer).map (.option setting)

section Options

variable (arguments : Arguments) (spelledOut : Bool)

theorem option_mem_options_iff (setting : Setting) (value : Text) :
    .option setting value ∈ arguments.options spelledOut ↔
      setting.value? arguments.request.config arguments.request.layer = some value := by
  cases setting <;> cases hverbose : arguments.verbose <;> simp [options, hverbose]

theorem filterMap_path?_options :
    (arguments.options spelledOut).filterMap Argument.path? = [] := by
  rw [List.filterMap_eq_nil_iff]
  intro argument hargument
  cases argument with
  | switch _ | option _ _ => rfl
  | path name =>
    cases hverbose : arguments.verbose <;> simp [options, hverbose] at hargument

/-- Whether a command line sets what a flag stands for. -/
def sets : Flag → Bool
  | .verbose => arguments.verbose
  | .setting setting =>
    (setting.value? arguments.request.config arguments.request.layer).isSome
  | .help | .version => false

theorem filterMap_flag?_options : (arguments.options spelledOut).filterMap Argument.flag? =
    [.verbose, .setting .config, .setting .macroPrefix, .setting .includeGuard].filter
      arguments.sets := by
  obtain ⟨verbose, input, output, config, macroPrefix, includeGuard⟩ := arguments
  cases verbose <;> cases config <;> cases macroPrefix <;> cases includeGuard <;> rfl

end Options

variable {arguments : Arguments} {spelledOut : Bool} {line : List Argument}

/-- A line writes a command line out: it holds what is set, each thing once, and the paths in
order. -/
structure Writes (line : List Argument) (arguments : Arguments) : Prop where
  distinct : (line.filterMap Argument.flag?).Nodup
  verbose : .verbose ∈ line.filterMap Argument.flag? ↔ arguments.verbose = true
  value (setting : Setting) (value : Text) : .option setting value ∈ line ↔
    setting.value? arguments.request.config arguments.request.layer = some value
  paths : line.filterMap Argument.path? = [arguments.request.input, arguments.request.output]

theorem writes_of_perm (hline : line.Perm (.path arguments.request.input ::
      .path arguments.request.output :: arguments.options spelledOut))
    (horder : [.path arguments.request.input, .path arguments.request.output].Sublist line) :
    Writes line arguments := by
  have hflags : (line.filterMap Argument.flag?).Perm
      ([.verbose, .setting .config, .setting .macroPrefix, .setting .includeGuard].filter
        arguments.sets) :=
    filterMap_flag?_options arguments spelledOut ▸ hline.filterMap Argument.flag?
  refine ⟨?_, ?_, fun setting value ↦ ?_, ?_⟩
  · exact hflags.nodup_iff.mpr (List.Nodup.sublist List.filter_sublist (by decide))
  · rw [hflags.mem_iff]
    simp [sets]
  · rw [hline.mem_iff, ← option_mem_options_iff arguments spelledOut]
    simp
  · have hlength := (hline.filterMap Argument.path?).length_eq
    simp only [List.filterMap_cons, Argument.path?,
      filterMap_path?_options arguments spelledOut] at hlength
    exact ((horder.filterMap Argument.path?).eq_of_length hlength.symm).symm

/-- A draft that shows a line makes the command line that the line writes out. -/
theorem Writes.ofDraft (hwrites : Writes line arguments) {draft : Draft}
    (hshows : draft.Shows line) : ofDraft draft = .ok arguments := by
  have hvalue (setting : Setting) : setting.value? draft.config draft.layer =
      setting.value? arguments.request.config arguments.request.layer :=
    Option.ext fun value ↦ (hshows.value setting value).trans (hwrites.value setting value)
  have hlayer : draft.layer = arguments.request.layer := by
    refine Layer.ext_get? fun field ↦ ?_
    cases field with
    | macroPrefix => exact hvalue .macroPrefix
    | includeGuard => exact hvalue .includeGuard
  have hconfig : draft.config = arguments.request.config := hvalue .config
  have hverbose : draft.verbose = arguments.verbose :=
    Bool.eq_iff_iff.mpr (hshows.verbose.trans hwrites.verbose)
  have hpaths : draft.paths = [arguments.request.input, arguments.request.output] :=
    hshows.paths.trans hwrites.paths
  rw [Arguments.ofDraft, Draft.settle_of_waiting hshows.waiting]
  simp only [Except.bind, hpaths, hlayer, hconfig, hverbose]

/-- A line that holds the arguments for what a command line sets in any order, and the input before
the output, is read as this command line, whatever the values of the options look like. With
something that is set again at its end it is a conflict, and with a third path anywhere it has one
argument too many. -/
theorem ofList_order_free (hinput : IsPath arguments.request.input)
    (houtput : IsPath arguments.request.output) (hconfig : arguments.request.config ≠ some [])
    (hline : line.Perm (.path arguments.request.input :: .path arguments.request.output ::
      arguments.options spelledOut))
    (horder : [.path arguments.request.input, .path arguments.request.output].Sublist line) :
    ofList (line.map Argument.text) = .ok arguments ∧
    (∀ again flag, again.flag? = some flag → flag ∈ line.filterMap Argument.flag? →
      ofList ((line ++ [again]).map Argument.text) = .error (.refused .conflict)) ∧
    ∀ third front back, IsPath third → line = front ++ back →
      ofList ((front ++ .path third :: back).map Argument.text) =
        .error (.refused .unknownArgument) := by
  have hwrites := writes_of_perm hline horder
  have hloaded : .option .config [] ∉ line := fun hmem ↦
    hconfig ((hwrites.value .config []).mp hmem)
  have hnames : ∀ name ∈ line.filterMap Argument.path?, IsPath name := by
    simp [hwrites.paths, hinput, houtput]
  obtain ⟨draft, hdraft, hshows⟩ :=
    Draft.exists_shows hloaded hwrites.distinct (by simp [hwrites.paths])
  refine ⟨?_, fun again flag hflag hmem ↦ ?_, fun third front back hthird hsplit ↦ ?_⟩
  · rw [ofList_map_text hnames, hdraft]
    exact hwrites.ofDraft hshows
  · have hpaths : (line ++ [again]).filterMap Argument.path? =
        line.filterMap Argument.path? := by
      cases again with
      | switch _ | option _ _ => simp [List.filterMap_cons, Argument.path?]
      | path _ => cases hflag
    rw [ofList_map_text (by rwa [hpaths]), Draft.addAll_concat, hdraft]
    exact congrArg (Except.bind · ofDraft) (hshows.add_again hflag hmem)
  · subst hsplit
    have hflags : (front ++ .path third :: back).filterMap Argument.flag? =
        (front ++ back).filterMap Argument.flag? := by
      simp [List.filterMap_cons, Argument.flag?]
    have hpaths : ((front ++ .path third :: back).filterMap Argument.path?).Perm
        (third :: (front ++ back).filterMap Argument.path?) :=
      List.perm_middle.filterMap Argument.path?
    have hnames' : ∀ name ∈ (front ++ .path third :: back).filterMap Argument.path?,
        IsPath name := by
      intro name hname
      rw [hpaths.mem_iff, List.mem_cons] at hname
      obtain rfl | hname := hname
      · exact hthird
      · exact hnames name hname
    have hloaded' : .option .config [] ∉ front ++ .path third :: back := by simpa using hloaded
    have hthree : 2 < ((front ++ .path third :: back).filterMap Argument.path?).length := by
      rw [hpaths.length_eq, hwrites.paths]
      exact Nat.lt_succ_self 2
    rw [ofList_map_text hnames', Draft.addAll_of_third hloaded' (hflags ▸ hwrites.distinct) hthree]
    rfl

/-- Values look like options here, one of them is empty, and the input is a hyphen. -/
def shuffledArguments : Arguments where
  verbose := true
  request := {
    input := "-".toList
    output := "b.h".toList
    config := some "-c".toList
    layer := ⟨some "--help".toList, some []⟩ }

/-- The switch and an option stand between the paths, and another option behind them. -/
def shuffledLine : List Argument :=
  [.option .includeGuard [], .path "-".toList, .switch true,
    .option .macroPrefix "--help".toList, .path "b.h".toList, .option .config "-c".toList]

theorem ofList_order_free_shuffledLine :
    IsPath shuffledArguments.request.input ∧ IsPath shuffledArguments.request.output ∧
    shuffledArguments.request.config ≠ some [] ∧
    shuffledLine.Perm (.path shuffledArguments.request.input ::
      .path shuffledArguments.request.output :: shuffledArguments.options true) ∧
    [.path shuffledArguments.request.input, .path shuffledArguments.request.output].Sublist
      shuffledLine ∧
    shuffledLine.map Argument.text = ["--include-guard=", "-", "--verbose",
      "--macro-prefix=--help", "b.h", "--config=-c"].map String.toList ∧
    ofList (shuffledLine.map Argument.text) = .ok shuffledArguments ∧
    ofList ((shuffledLine ++ [Argument.switch false]).map Argument.text) =
      .error (.refused .conflict) ∧
    ofList ((Argument.path "x.dts".toList :: shuffledLine).map Argument.text) =
      .error (.refused .unknownArgument) := by
  have hinput : IsPath shuffledArguments.request.input := by decide
  have houtput : IsPath shuffledArguments.request.output := by decide
  have hconfig : shuffledArguments.request.config ≠ some [] := by decide
  have hline : shuffledLine.Perm (.path shuffledArguments.request.input ::
      .path shuffledArguments.request.output :: shuffledArguments.options true) := by decide
  have horder : [.path shuffledArguments.request.input,
      .path shuffledArguments.request.output].Sublist shuffledLine := by decide
  obtain ⟨hread, hagain, hthird⟩ := ofList_order_free hinput houtput hconfig hline horder
  exact ⟨hinput, houtput, hconfig, hline, horder, rfl, hread,
    hagain (.switch false) .verbose rfl (by decide),
    hthird "x.dts".toList [] shuffledLine (by decide) rfl⟩

end Arguments

end DevicetreeHeader.Program
