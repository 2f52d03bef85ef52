import DevicetreeHeader.Keyed
import DevicetreeHeader.Log.Event
import DevicetreeHeader.Source.Assignment
import DevicetreeHeader.Source.Block
import DevicetreeHeader.Source.Comment

/-!
# Nodes

A node is a block whose assignments have been classified. A repeated key keeps its first position
and takes its last value. Reading reports every assignment, and every value that a later one
replaces, so that replaying the reports gives the properties.

`Node.ofBlock` reads one block, `Node.ofSource` the source text of a whole document.
-/

set_option autoImplicit false
set_option relaxedAutoImplicit false

namespace DevicetreeHeader

open Log (Event)
open Source (Assignment Block)

/-- A labelled and typed group of properties. -/
structure Node where
  label : Text
  type : Text
  properties : Keyed Value
  deriving DecidableEq, Repr

namespace Node

/-- The properties of a block that have been read so far, and the events that report them. -/
structure Reading where
  properties : Keyed Value := []
  events : List Event := []

/-- Reads one assignment of a block. -/
def Reading.add (label : Text) (reading : Reading) (assignment : Assignment) : Reading :=
  let value := Value.classify assignment.value
  let replaced := match reading.properties.get? assignment.key with
    | some old => [Event.overwritten label assignment.key old]
    | none => []
  { properties := reading.properties.put assignment.key value
    events := reading.events ++ Event.classified label assignment.key value :: replaced }

/-- Reads the assignments of a block in order. -/
def reading (block : Block) : Reading :=
  (Source.assignments block.body).foldl (Reading.add block.label) {}

/-- The node of a block. -/
def ofBlock (block : Block) : Node where
  label := block.label
  type := block.type
  properties := (reading block).properties

/-- The events of reading a block. -/
def events (block : Block) : List Event :=
  (reading block).events

/-- The nodes of a source text in order. Text that forms no node and no property is passed over. -/
def ofSource (text : Text) : List Node :=
  (Source.blocks (Source.Comment.strip text)).map ofBlock

/-- The events of reading a source text: those of its blocks, and the number of nodes at the end. -/
def sourceEvents (text : Text) : List Event :=
  let blocks := Source.blocks (Source.Comment.strip text)
  blocks.flatMap events ++ [.extracted blocks.length]

end Node

end DevicetreeHeader
