import DevicetreeHeader.Header.Basic

/-!
# Sinks

A header is handed on piece by piece, and what cannot be handed on ends the writing
(`Header.emit`, `Header.writeInto`). The sink may be of any kind: all that matters is how it takes a
piece, and whether that is the whole of it.

A `Sink` holds what it has been given and may have room for a limited number of characters. It takes
what fits of a piece and fails if that is not all of it.
-/

set_option autoImplicit false
set_option relaxedAutoImplicit false

namespace DevicetreeHeader

/-- A place to write to, with room for so many more characters, or without limit. -/
structure Sink where
  held : Text := []
  room : Option Nat := none
  deriving DecidableEq, Repr

namespace Sink

/-- Writes one piece: the sink after it, and whether it took the whole piece. -/
def write (sink : Sink) (piece : Text) : Sink × Bool :=
  match sink.room with
  | none => ({ sink with held := sink.held ++ piece }, true)
  | some room =>
    ({ held := sink.held ++ piece.take room, room := some (room - piece.length) },
      decide (piece.length ≤ room))

end Sink

namespace Header

section Emission

variable {m : Type → Type} [Monad m] (put : Text → m Unit)

/-- Hands on a section: its type on a line after an empty one, and each definition on a line. -/
def emitSection (part : Section) : m Unit := do
  put "\n/** ".toList
  put part.type
  put " **/".toList
  part.definitions.forM fun definition ↦ do
    put ['\n']
    put definition.line
  put ['\n']

/-- Hands on a header piece by piece. -/
def emit (header : Header) : m Unit := do
  put banner
  if let some guard := header.guard then
    put "\n#ifndef ".toList
    put guard
    put "\n#define ".toList
    put guard
  put ['\n']
  header.sections.forM (emitSection put)
  if let some guard := header.guard then
    put "\n#endif /* ".toList
    put guard
    put " */".toList
    put ['\n']

end Emission

section Writing

variable {σ : Type} (take : σ → Text → σ × Bool)

/-- Hands a piece to a sink. It is an error if the sink does not take the whole of it. -/
def handOver (piece : Text) : EStateM Unit σ Unit := fun sink ↦
  match take sink piece with
  | (after, true) => .ok () after
  | (after, false) => .error () after

/-- Writes the document of a header into a sink of any kind: the sink after it, and whether it took
the whole document. -/
def writeInto (header : Header) (sink : σ) : σ × Bool :=
  match (header.emit (handOver take)).run sink with
  | .ok () after => (after, true)
  | .error () after => (after, false)

end Writing

/-- Writes the document of a header into a sink. -/
def writeTo (header : Header) (sink : Sink) : Sink × Bool :=
  header.writeInto Sink.write sink

end Header

end DevicetreeHeader
