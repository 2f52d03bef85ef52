import DevicetreeHeader.Log.Event

/-!
# Filters of log lines

A filter is a list of directives, separated by commas in its text: a level for all events, or for
the events from the parts of the program whose names start with a given text. The longest matching
name decides, of equal ones the last; an event that no directive matches is dropped.
-/

set_option autoImplicit false
set_option relaxedAutoImplicit false

namespace DevicetreeHeader.Log

/-- How much detail a name is given. -/
structure Directive where
  /-- The text with which the names of the parts of the program start. -/
  target : Text
  /-- The most detailed level that is admitted, if any is. -/
  ceiling : Option Level
  deriving DecidableEq, Repr

/-- The level that a word names without regard to case, or a digit by its rank, and none for `off`
or zero. -/
def ceiling? (word : Text) : Option (Option Level) :=
  let levels := [Level.error, .warn, .info, .debug, .trace]
  let capital := word.map Char.toUpper
  if capital = "OFF".toList ∨ word = ['0'] then some none
  else (levels.find? fun level ↦ level.name = capital || Text.ofNat level.rank == word).map some

/-- The directive that a text spells, if it spells one. A name without a level after it, or with an
empty one, admits every level. -/
def Directive.ofText? (text : Text) : Option Directive :=
  match text.takeWhile (· ≠ '='), text.dropWhile (· ≠ '=') with
  | [], _ => none
  | word, [] =>
    match ceiling? word with
    | some ceiling => some ⟨[], ceiling⟩
    | none => some ⟨word, some .trace⟩
  | target, ['='] => some ⟨target, some .trace⟩
  | target, _ :: word => (ceiling? word).map fun ceiling ↦ ⟨target, ceiling⟩

/-- What a log admits. -/
abbrev Filter := List Directive

namespace Filter

/-- The filter that admits a level and those more urgent. -/
def upTo (level : Level) : Filter :=
  [⟨[], some level⟩]

/-- The filter that a text spells; if it has no sound directive, the given one. -/
def ofText (default : Filter) (text : Text) : Filter :=
  match (text.splitOn ',').filterMap Directive.ofText? with
  | [] => default
  | directives => directives

/-- The directive that decides for a part of the program. -/
def deciding? (filter : Filter) (origin : Text) : Option Directive :=
  (filter.filter fun directive ↦ directive.target.isPrefixOf origin).foldl
    (fun best directive ↦
      match best with
      | none => some directive
      | some longest =>
        if longest.target.length ≤ directive.target.length then some directive else best) none

/-- Whether an event is logged. -/
def admits (filter : Filter) (event : Event) : Bool :=
  match filter.deciding? event.origin with
  | some ⟨_, some level⟩ => event.level.rank ≤ level.rank
  | _ => false

end Filter

end DevicetreeHeader.Log
