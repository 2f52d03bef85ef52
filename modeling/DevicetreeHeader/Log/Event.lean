import DevicetreeHeader.Options.Layer
import DevicetreeHeader.Text.Quoted
import DevicetreeHeader.Value

/-!
# Events

What a run reports while it goes: an event has a level, the part of the program that it comes from,
a message and fields. Texts in fields are quoted, except the path of the output.
-/

set_option autoImplicit false
set_option relaxedAutoImplicit false

namespace DevicetreeHeader.Log

/-- How urgent an event is, the most urgent first. -/
inductive Level
  | error
  | warn
  | info
  | debug
  | trace
  deriving DecidableEq, Repr

namespace Level

/-- The rank of a level, growing with the amount of detail. -/
def rank : Level → Nat
  | error => 1
  | warn => 2
  | info => 3
  | debug => 4
  | trace => 5

/-- The name of a level in a log line. -/
def name : Level → Text
  | error => "ERROR".toList
  | warn => "WARN".toList
  | info => "INFO".toList
  | debug => "DEBUG".toList
  | trace => "TRACE".toList

end Level

/-- Something that a run reports. -/
inductive Event
  /-- A property of a block has been given its value. -/
  | classified (label key : Text) (value : Value)
  /-- The property had another value before. -/
  | overwritten (label key : Text) (old : Value)
  /-- All nodes of a text have been read. -/
  | extracted (count : Nat)
  /-- The configuration file has been loaded, if there is one. -/
  | loaded (layer : Option Layer)
  /-- A macro is defined more than once. -/
  | collision (name : Text)
  /-- The header has been written. -/
  | wrote (nodes sections : Nat) (output : Text)
  deriving DecidableEq, Repr

/-- The form in which log lines show a value. -/
def shownValue : Value → Text
  | .integer number => "Integer(".toList ++ Text.ofInt number ++ [')']
  | .quoted content => "QuotedString(".toList ++ Text.quoted content ++ [')']
  | .token content => "Token(".toList ++ Text.quoted content ++ [')']

/-- The form in which log lines show something that may be missing. -/
def shownOption {α : Type} (shown : α → Text) : Option α → Text
  | none => "None".toList
  | some value => "Some(".toList ++ shown value ++ [')']

/-- The form in which log lines show the layer of a configuration file. -/
def shownLayer (layer : Layer) : Text :=
  "TomlConfig \x7b macro_prefix: ".toList ++ shownOption Text.quoted layer.macroPrefix ++
    ", include_guard: ".toList ++ shownOption Text.quoted layer.includeGuard ++ " \x7d".toList

namespace Event

/-- The level of an event. -/
def level : Event → Level
  | classified .. => .trace
  | overwritten .. => .debug
  | extracted _ => .debug
  | loaded _ => .debug
  | collision _ => .warn
  | wrote .. => .info

/-- The part of the program that an event comes from. -/
def origin : Event → Text
  | classified .. | overwritten .. | extracted _ => "dt_header::node".toList
  | loaded _ | collision _ | wrote .. => "dt_header::generate".toList

/-- The message of an event and its fields. -/
def text : Event → Text
  | classified label key value =>
    "classified property label=".toList ++ Text.quoted label ++ " key=".toList ++
      Text.quoted key ++ " value=".toList ++ shownValue value
  | overwritten label key old =>
    "property overwritten label=".toList ++ Text.quoted label ++ " key=".toList ++
      Text.quoted key ++ " old=".toList ++ shownValue old
  | extracted count => "extracted nodes count=".toList ++ Text.ofNat count
  | loaded layer => "loaded config file toml=".toList ++ shownOption shownLayer layer
  | collision name => "macro is defined more than once name=".toList ++ Text.quoted name
  | wrote nodes sections output =>
    "wrote header nodes=".toList ++ Text.ofNat nodes ++ " sections=".toList ++
      Text.ofNat sections ++ " output=".toList ++ output

/-- The line of an event: its level and its text. -/
def line (event : Event) : Text :=
  event.level.name ++ ' ' :: event.text

/-- The line of an event with the part of the program that it comes from. -/
def tracedLine (event : Event) : Text :=
  event.level.name ++ ' ' :: event.origin ++ ": ".toList ++ event.text

end Event

end DevicetreeHeader.Log
