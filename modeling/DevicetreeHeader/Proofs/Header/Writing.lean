import DevicetreeHeader.Header.Sink
import Mathlib.Data.List.Basic

/-!
# Writing a header into a sink

A header hands on exactly its pieces, in their order (`emit_eq_forM`), whatever is done with them.
So a sink of any kind either takes all of them, or it is left as the first piece that it does not
take whole has left it (`writeInto_eq_false_iff`): nothing is handed on after that piece.

A sink that has room for a number of characters then holds that many characters of the document, or
all of it if there are no more (`writeTo_limited`).
-/

set_option autoImplicit false
set_option relaxedAutoImplicit false

namespace DevicetreeHeader.Header

/-! ### The order of the pieces -/

section Emission

variable {m : Type → Type} [Monad m] [LawfulMonad m] (put : Text → m Unit)

theorem forM_flatMap {α : Type} (pieces : α → List Text) (items : List α) :
    forM (items.flatMap pieces) put = forM items fun item ↦ forM (pieces item) put := by
  induction items with
  | nil => rfl
  | cons item items ih => rw [List.flatMap_cons, List.forM_append, ih, List.forM_cons]

theorem emitSection_eq_forM (part : Section) :
    emitSection put part = forM (sectionPieces part) put := by
  simp [emitSection, sectionPieces, forM_flatMap]

/-- A header hands on its pieces in their order. -/
theorem emit_eq_forM (header : Header) : header.emit put = forM header.pieces put := by
  have hsections : forM header.sections (emitSection put) =
      forM (header.sections.flatMap sectionPieces) put := by
    rw [forM_flatMap, funext (emitSection_eq_forM put)]
  cases hguard : header.guard with
  | none => simp [emit, pieces, hguard, hsections]
  | some guard => simp [emit, pieces, hguard, hsections]

end Emission

/-! ### Sinks of any kind -/

section Sinks

variable {σ : Type} {take : σ → Text → σ × Bool}

/-- A sink takes pieces one after the other, each of them whole. -/
inductive Takes (take : σ → Text → σ × Bool) : σ → List Text → σ → Prop
  | nil (sink : σ) : Takes take sink [] sink
  | cons {sink next after : σ} {piece : Text} {rest : List Text}
      (hpiece : take sink piece = (next, true)) (hrest : Takes take next rest after) :
      Takes take sink (piece :: rest) after

theorem run_cons_of_taken {sink next : σ} {piece : Text} (hpiece : take sink piece = (next, true))
    (rest : List Text) : (forM (piece :: rest) (handOver take)).run sink =
      (forM rest (handOver take)).run next := by
  have hhand : (handOver take piece).run sink = .ok () next := by
    rw [EStateM.run, handOver, hpiece]
  rw [List.forM_cons, EStateM.run_bind, hhand]

theorem run_cons_of_refused {sink next : σ} {piece : Text}
    (hpiece : take sink piece = (next, false)) (rest : List Text) :
    (forM (piece :: rest) (handOver take)).run sink = .error () next := by
  have hhand : (handOver take piece).run sink = .error () next := by
    rw [EStateM.run, handOver, hpiece]
  rw [List.forM_cons, EStateM.run_bind, hhand]

/-- What stands behind pieces that are taken is handed to the sink that they leave. -/
theorem Takes.run_append {sink next : σ} {done : List Text} (hdone : Takes take sink done next)
    (rest : List Text) : (forM (done ++ rest) (handOver take)).run sink =
      (forM rest (handOver take)).run next := by
  induction hdone with
  | nil sink => rw [List.nil_append]
  | cons hpiece hlater ih => rw [List.cons_append, run_cons_of_taken hpiece, ih]

/-- All pieces are taken, or there is a first one that is not taken whole. -/
theorem takes_or_refuses (take : σ → Text → σ × Bool) (sink : σ) (pieces : List Text) :
    (∃ after, Takes take sink pieces after) ∨
      ∃ done refused rest next after, pieces = done ++ refused :: rest ∧
        Takes take sink done next ∧ take next refused = (after, false) := by
  induction pieces generalizing sink with
  | nil => exact Or.inl ⟨sink, .nil sink⟩
  | cons piece rest ih =>
    cases htake : take sink piece with
    | mk next whole =>
      cases whole with
      | false => exact Or.inr ⟨[], piece, rest, sink, next, rfl, .nil sink, htake⟩
      | true =>
        rcases ih next with ⟨after, hrest⟩ | ⟨done, refused, later, last, after, rfl, hdone, hlast⟩
        · exact Or.inl ⟨after, .cons htake hrest⟩
        · exact Or.inr ⟨piece :: done, refused, later, last, after, rfl, .cons htake hdone, hlast⟩

variable (header : Header)

theorem writeInto_of_takes {sink after : σ} (hpieces : Takes take sink header.pieces after) :
    header.writeInto take sink = (after, true) := by
  have hrun := hpieces.run_append []
  rw [List.append_nil] at hrun
  rw [writeInto, emit_eq_forM, hrun]
  rfl

theorem writeInto_of_refused {sink next after : σ} {done rest : List Text} {refused : Text}
    (hpieces : header.pieces = done ++ refused :: rest) (hdone : Takes take sink done next)
    (hrefused : take next refused = (after, false)) :
    header.writeInto take sink = (after, false) := by
  rw [writeInto, emit_eq_forM, hpieces, hdone.run_append, run_cons_of_refused hrefused]

/-- A document is taken if all its pieces are. -/
theorem writeInto_eq_true_iff {sink after : σ} :
    header.writeInto take sink = (after, true) ↔ Takes take sink header.pieces after := by
  constructor
  · intro hwritten
    rcases takes_or_refuses take sink header.pieces with
      ⟨final, htakes⟩ | ⟨done, refused, rest, next, final, hpieces, hdone, hrefused⟩
    · obtain rfl : final = after := by
        simpa [writeInto_of_takes header htakes] using hwritten
      exact htakes
    · simp [writeInto_of_refused header hpieces hdone hrefused] at hwritten
  · exact writeInto_of_takes header

/-- If a document is not taken, the sink is left as the first piece that it did not take whole has
left it. -/
theorem writeInto_eq_false_iff {sink after : σ} :
    header.writeInto take sink = (after, false) ↔
      ∃ done refused rest next, header.pieces = done ++ refused :: rest ∧
        Takes take sink done next ∧ take next refused = (after, false) := by
  constructor
  · intro hfailed
    rcases takes_or_refuses take sink header.pieces with
      ⟨final, htakes⟩ | ⟨done, refused, rest, next, final, hpieces, hdone, hrefused⟩
    · simp [writeInto_of_takes header htakes] at hfailed
    · obtain rfl : final = after := by
        simpa [writeInto_of_refused header hpieces hdone hrefused] using hfailed
      exact ⟨done, refused, rest, next, hpieces, hdone, hrefused⟩
  · rintro ⟨done, refused, rest, next, hpieces, hdone, hrefused⟩
    exact writeInto_of_refused header hpieces hdone hrefused

end Sinks

/-! ### Sinks with so much room -/

theorem takes_write_unlimited (held : Text) (pieces : List Text) :
    Takes Sink.write ⟨held, none⟩ pieces ⟨held ++ pieces.flatten, none⟩ := by
  induction pieces generalizing held with
  | nil => simpa using Takes.nil (Sink.mk held none)
  | cons piece rest ih =>
    rw [List.flatten_cons, ← List.append_assoc]
    exact .cons rfl (ih (held ++ piece))

/-- Of a sink with room, pieces that are taken use their lengths up. -/
theorem of_takes_write {held : Text} {room : Nat} {pieces : List Text} {after : Sink}
    (hpieces : Takes Sink.write ⟨held, some room⟩ pieces after) :
    pieces.flatten.length ≤ room ∧
      after = ⟨held ++ pieces.flatten, some (room - pieces.flatten.length)⟩ := by
  generalize hsink : Sink.mk held (some room) = sink at hpieces
  induction hpieces generalizing held room with
  | nil sink => simp [← hsink]
  | @cons sink next after piece rest hpiece hrest ih =>
    subst hsink
    obtain ⟨hnext, hfits⟩ := Prod.mk.inj hpiece
    rw [decide_eq_true_eq] at hfits
    obtain ⟨hrest, rfl⟩ := ih hnext
    rw [List.flatten_cons, List.length_append, List.take_of_length_le hfits, List.append_assoc,
      Nat.sub_sub]
    exact ⟨by omega, rfl⟩

theorem writeTo_unlimited (header : Header) (held : Text) :
    header.writeTo ⟨held, none⟩ = (⟨held ++ header.text, none⟩, true) :=
  writeInto_of_takes header (takes_write_unlimited held header.pieces)

/-- A sink with room takes of a document what fits. -/
theorem writeTo_limited (header : Header) (held : Text) (room : Nat) :
    (header.writeTo ⟨held, some room⟩).1.held = held ++ header.text.take room ∧
      ((header.writeTo ⟨held, some room⟩).2 = true ↔ header.text.length ≤ room) := by
  rcases takes_or_refuses Sink.write ⟨held, some room⟩ header.pieces with
    ⟨after, htakes⟩ | ⟨done, refused, rest, next, after, hpieces, hdone, hrefused⟩
  · obtain ⟨hfits, rfl⟩ := of_takes_write htakes
    rw [← text] at hfits
    rw [writeTo, writeInto_of_takes header htakes, List.take_of_length_le hfits]
    exact ⟨rfl, iff_of_true rfl hfits⟩
  · have hresult := writeInto_of_refused header hpieces hdone hrefused
    obtain ⟨hfits, rfl⟩ := of_takes_write hdone
    obtain ⟨rfl, hlong⟩ := Prod.mk.inj hrefused
    rw [decide_eq_false_iff_not] at hlong
    -- The document ends behind the room, since the refused piece does.
    have htext : header.text = done.flatten ++ (refused ++ rest.flatten) := by
      rw [text, hpieces, List.flatten_append, List.flatten_cons]
    rw [writeTo, hresult, htext]
    refine ⟨?_, ?_⟩
    · rw [List.take_append, List.take_of_length_le hfits, List.take_append_of_le_length (by omega),
        List.append_assoc]
    · simp only [List.length_append, Bool.false_eq_true, false_iff]
      omega

/-- Writing a header leaves in a sink with room what fits of the document, and tells whether that is
all of it; a sink without limit gets all of it behind what it holds; and in any sink nothing is
written after the first piece that it does not take whole. -/
theorem writing_stops_at_first_refusal (header : Header) :
    (∀ room : Nat,
      (header.writeTo { room := some room }).1.held = header.text.take room ∧
        ((header.writeTo { room := some room }).2 = true ↔ header.text.length ≤ room)) ∧
    (∀ held : Text, header.writeTo { held } = ({ held := held ++ header.text }, true)) ∧
    ∀ {σ : Type} (take : σ → Text → σ × Bool) (sink after : σ),
      (header.writeInto take sink = (after, true) ↔ Takes take sink header.pieces after) ∧
      (header.writeInto take sink = (after, false) ↔
        ∃ done refused rest next, header.pieces = done ++ refused :: rest ∧
          Takes take sink done next ∧ take next refused = (after, false)) :=
  ⟨fun room ↦ writeTo_limited header [] room, writeTo_unlimited header,
    fun _ _ _ ↦ ⟨writeInto_eq_true_iff header, writeInto_eq_false_iff header⟩⟩

end DevicetreeHeader.Header
