import DevicetreeHeader.Proofs.Text.Runs
import DevicetreeHeader.Source.Block

/-!
# Openings of blocks

A block opens where a label, a colon, a type and a brace stand in this order with nothing but
blanks between them (`Block.Opens`). A place decides by itself whether a block opens there
(`opening?_eq_some_iff`), and a piece of text yields the block that opens at its leftmost such place
(`ofPiece?_eq_some_iff`), although the reader of pieces skips a whole word at a time.

The blocks of a text are read off its closed pieces, those that a closing brace and a semicolon
follow (`blocks_eq_filterMap`).
-/

set_option autoImplicit false
set_option relaxedAutoImplicit false

namespace DevicetreeHeader.Source

open Text

namespace Block

/-- A block opens at the start of a text: its label, a colon, its type and a brace with blanks
between them. The body is all that follows. -/
def Opens (text : Text) (block : Block) : Prop :=
  Word block.label ∧ Word block.type ∧ ∃ gap₁ gap₂ gap₃, Blank gap₁ ∧ Blank gap₂ ∧ Blank gap₃ ∧
    text = block.label ++ (gap₁ ++ ':' :: (gap₂ ++ (block.type ++ (gap₃ ++ '{' :: block.body))))

/-- The block that opens at the start of a text. -/
def opening? (text : Text) : Option Block :=
  match text.takeWhile isWord, typed? (text.dropWhile isWord) with
  | c :: label, some (type, body) => some ⟨c :: label, type, body⟩
  | _, _ => none

/-! ### One place -/

theorem typed?_eq_some_iff {text type body : Text} :
    typed? text = some (type, body) ↔ Word type ∧ ∃ gap₁ gap₂ gap₃,
      Blank gap₁ ∧ Blank gap₂ ∧ Blank gap₃ ∧
        text = gap₁ ++ ':' :: (gap₂ ++ (type ++ (gap₃ ++ '{' :: body))) := by
  constructor
  · intro h
    unfold typed? at h
    split at h
    · rename_i afterColon hcolon
      dsimp only at h
      split at h
      · rename_i c word after htype hbrace
        obtain ⟨rfl, rfl⟩ : c :: word = type ∧ after = body := by simpa using h
        refine ⟨⟨List.cons_ne_nil _ _, fun d hd ↦ mem_takeWhile (htype ▸ hd)⟩,
          text.takeWhile isBlank, afterColon.takeWhile isBlank,
          ((afterColon.dropWhile isBlank).dropWhile isWord).takeWhile isBlank,
          fun d hd ↦ mem_takeWhile hd, fun d hd ↦ mem_takeWhile hd, fun d hd ↦ mem_takeWhile hd, ?_⟩
        rw [← hbrace, List.takeWhile_append_dropWhile, ← htype, List.takeWhile_append_dropWhile,
          List.takeWhile_append_dropWhile, ← hcolon, List.takeWhile_append_dropWhile]
      · simp at h
    · simp at h
  · rintro ⟨⟨hne, hword⟩, gap₁, gap₂, gap₃, hgap₁, hgap₂, hgap₃, rfl⟩
    obtain ⟨c, word, rfl⟩ := List.exists_cons_of_ne_nil hne
    have hcolon : (gap₁ ++ ':' :: (gap₂ ++ (c :: word ++ (gap₃ ++ '{' :: body)))).dropWhile
        isBlank = ':' :: (gap₂ ++ (c :: word ++ (gap₃ ++ '{' :: body))) :=
      dropWhile_append_of_head? hgap₁ (head?_cons_of_eq_false (by decide))
    have hstart : (gap₂ ++ (c :: word ++ (gap₃ ++ '{' :: body))).dropWhile isBlank =
        c :: word ++ (gap₃ ++ '{' :: body) :=
      dropWhile_append_of_head? hgap₂
        (head?_cons_of_eq_false (isBlank_of_isWord (hword c List.mem_cons_self)))
    have hleft := head?_gap hgap₃ (fun _ ↦ isWord_of_isBlank) (by decide : isWord '{' = false) body
    have hbrace : (gap₃ ++ '{' :: body).dropWhile isBlank = '{' :: body :=
      dropWhile_append_of_head? hgap₃ (head?_cons_of_eq_false (by decide))
    unfold typed?
    rw [hcolon]
    simp only [hstart, takeWhile_append_of_head? hword hleft, dropWhile_append_of_head? hword hleft,
      hbrace]

/-- A place decides by itself whether a block opens there, and which one. -/
theorem opening?_eq_some_iff {text : Text} {block : Block} :
    opening? text = some block ↔ Opens text block := by
  constructor
  · intro h
    unfold opening? at h
    split at h
    · rename_i c label type body hlabel htyped
      obtain rfl : ⟨c :: label, type, body⟩ = block := by simpa using h
      obtain ⟨htype, gap₁, gap₂, gap₃, hgap₁, hgap₂, hgap₃, htext⟩ := typed?_eq_some_iff.mp htyped
      refine ⟨⟨List.cons_ne_nil _ _, fun d hd ↦ mem_takeWhile (hlabel ▸ hd)⟩, htype,
        gap₁, gap₂, gap₃, hgap₁, hgap₂, hgap₃, ?_⟩
      rw [← htext, ← hlabel, List.takeWhile_append_dropWhile]
    · simp at h
  · obtain ⟨label, type, body⟩ := block
    rintro ⟨⟨hne, hlabel⟩, htype, gap₁, gap₂, gap₃, hgap₁, hgap₂, hgap₃, rfl⟩
    obtain ⟨c, word, rfl⟩ := List.exists_cons_of_ne_nil hne
    have hleft := head?_gap hgap₁ (fun _ ↦ isWord_of_isBlank) (by decide : isWord ':' = false)
      (gap₂ ++ (type ++ (gap₃ ++ '{' :: body)))
    have htyped : typed? (gap₁ ++ ':' :: (gap₂ ++ (type ++ (gap₃ ++ '{' :: body)))) =
        some (type, body) :=
      typed?_eq_some_iff.mpr ⟨htype, gap₁, gap₂, gap₃, hgap₁, hgap₂, hgap₃, rfl⟩
    unfold opening?
    simp only [takeWhile_append_of_head? hlabel hleft, dropWhile_append_of_head? hlabel hleft,
      htyped]

theorem opening?_of_head? {text : Text} (hhead : ∀ c ∈ text.head?, isWord c = false) :
    opening? text = none := by
  unfold opening?
  rw [takeWhile_of_head? hhead]

/-! ### The leftmost place -/

@[simp] theorem ofPiece?_nil : ofPiece? [] = none := by
  rw [ofPiece?]

/-- If the word at the start of a text labels nothing, no part of it does. -/
theorem ofPiece?_dropWhile {text : Text} (htyped : typed? (text.dropWhile isWord) = none) :
    ofPiece? (text.dropWhile isWord) = ofPiece? text := by
  cases text with
  | nil => rfl
  | cons c rest =>
    by_cases hc : isWord c = true
    · rw [List.dropWhile_cons_of_pos hc] at htyped ⊢
      rw [ofPiece?, if_pos hc, htyped]
    · rw [List.dropWhile_cons_of_neg hc]

/-- A piece yields the block that opens at its start, or else what the rest of the piece yields. -/
theorem ofPiece?_cons (c : Char) (rest : Text) :
    ofPiece? (c :: rest) = (opening? (c :: rest)).or (ofPiece? rest) := by
  by_cases hc : isWord c = true
  · rw [ofPiece?, if_pos hc, opening?, List.takeWhile_cons_of_pos hc, List.dropWhile_cons_of_pos hc]
    cases htyped : typed? (rest.dropWhile isWord) with
    | none => exact ofPiece?_dropWhile htyped
    | some found => rfl
  · rw [ofPiece?, if_neg hc, opening?_of_head? (head?_cons_of_eq_false (by simpa using hc)),
      Option.none_or]

/-- The block opens in a piece at the place after some text, and no block opens further left. -/
def OpensLeftmost (piece : Text) (block : Block) : Prop :=
  ∃ before here, piece = before ++ here ∧ Opens here block ∧
    ∀ other there found, piece = other ++ there → Opens there found → before.length ≤ other.length

theorem opensLeftmost_of_opens {text : Text} {block found : Block} (hopens : Opens text block) :
    OpensLeftmost text found ↔ found = block := by
  constructor
  · rintro ⟨before, here, htext, hfound, hleast⟩
    have hbefore := hleast [] text block rfl hopens
    rw [List.eq_nil_of_length_eq_zero (Nat.le_zero.mp hbefore), List.nil_append] at htext
    rw [← htext, ← opening?_eq_some_iff, opening?_eq_some_iff.mpr hopens] at hfound
    exact (Option.some.inj hfound).symm
  · rintro rfl
    exact ⟨[], text, rfl, hopens, fun _ _ _ _ _ ↦ Nat.zero_le _⟩

theorem opensLeftmost_cons {c : Char} {rest : Text} {block : Block}
    (hnone : ∀ found, ¬ Opens (c :: rest) found) :
    OpensLeftmost (c :: rest) block ↔ OpensLeftmost rest block := by
  constructor
  · rintro ⟨before, here, htext, hopens, hleast⟩
    cases before with
    | nil => exact absurd (htext ▸ hopens) (hnone block)
    | cons d before =>
      obtain ⟨-, rfl⟩ := List.cons_eq_cons.mp htext
      refine ⟨before, here, rfl, hopens, fun other there found hother hfound ↦ ?_⟩
      exact Nat.le_of_succ_le_succ (hleast (c :: other) there found (by rw [hother]; rfl) hfound)
  · rintro ⟨before, here, rfl, hopens, hleast⟩
    refine ⟨c :: before, here, rfl, hopens, fun other there found hother hfound ↦ ?_⟩
    cases other with
    | nil => exact absurd (hother ▸ hfound) (hnone found)
    | cons d other =>
      obtain ⟨-, htail⟩ := List.cons_eq_cons.mp hother
      exact Nat.succ_le_succ (hleast other there found htail hfound)

/-- A piece yields the block that opens at its leftmost opening, and nothing if there is none. -/
theorem ofPiece?_eq_some_iff {piece : Text} {block : Block} :
    ofPiece? piece = some block ↔ OpensLeftmost piece block := by
  induction piece with
  | nil =>
    simp only [ofPiece?_nil, reduceCtorEq, false_iff]
    rintro ⟨before, here, hpiece, ⟨⟨hlabel, -⟩, -, gap₁, gap₂, gap₃, -, -, -, rfl⟩, -⟩
    simp at hpiece
  | cons c rest ih =>
    rw [ofPiece?_cons]
    cases hopening : opening? (c :: rest) with
    | none =>
      have hnone : ∀ found, ¬ Opens (c :: rest) found := by
        intro found hfound
        rw [opening?_eq_some_iff.mpr hfound] at hopening
        exact Option.some_ne_none found hopening
      rw [Option.none_or, ih, opensLeftmost_cons hnone]
    | some found =>
      rw [Option.some_or, Option.some.injEq, eq_comm,
        opensLeftmost_of_opens (opening?_eq_some_iff.mp hopening)]

end Block

/-! ### Pieces of a text -/

/-- The pieces of a text cut at its closing braces, those whose brace a semicolon follows. -/
def closedPieces (text : Text) : List Text :=
  let pieces := text.splitOn '}'
  ((pieces.zip pieces.tail).filter fun pair ↦ pair.2.head? = some ';').map Prod.fst

theorem Block.ofPieces_cons (piece : Text) (pieces : List Text) :
    ofPieces (piece :: pieces) =
      (if pieces.head?.bind List.head? = some ';' then (ofPiece? piece).toList else []) ++
        ofPieces pieces := by
  match pieces with
  | [] => simp [ofPieces]
  | [] :: pieces => simp [ofPieces]
  | (c :: rest) :: pieces =>
    by_cases hc : c = ';'
    · simp [ofPieces, hc]
    · rw [ofPieces]
      · simp [hc]
      · intro rest' pieces' h
        simp_all

theorem Block.ofPieces_eq_filterMap (pieces : List Text) : ofPieces pieces =
    (((pieces.zip pieces.tail).filter fun pair ↦ pair.2.head? = some ';').map
      Prod.fst).filterMap ofPiece? := by
  induction pieces with
  | nil => rfl
  | cons piece pieces ih =>
    rw [ofPieces_cons, ih]
    cases pieces with
    | nil => simp
    | cons next pieces =>
      by_cases hnext : next.head? = some ';'
      · cases hpiece : ofPiece? piece <;> simp [hnext, hpiece]
      · simp [hnext]

/-- The blocks of a text are those of its closed pieces. -/
theorem blocks_eq_filterMap (text : Text) :
    blocks text = (closedPieces text).filterMap Block.ofPiece? :=
  Block.ofPieces_eq_filterMap _

private theorem head?_splitOn_brace (text : Text) :
    ((text.splitOn '}').head?.bind List.head? = some ';') ↔ text.head? = some ';' := by
  cases text with
  | nil => simp
  | cons c rest =>
    rw [List.splitOn_cons_eq_if_modifyHead]
    by_cases hc : c = '}'
    · simp [hc]
    · obtain ⟨piece, pieces, hpieces⟩ :=
        List.exists_cons_of_ne_nil (List.splitOn_ne_nil '}' rest)
      simp [hc, hpieces]

theorem blocks_of_not_mem {text : Text} (htext : '}' ∉ text) : blocks text = [] := by
  rw [blocks, List.splitOn_eq_singleton htext]
  rfl

/-- The first piece of a text yields its block if a semicolon follows the brace. -/
theorem blocks_append_brace {piece : Text} (hpiece : '}' ∉ piece) (rest : Text) :
    blocks (piece ++ '}' :: rest) =
      (if rest.head? = some ';' then (Block.ofPiece? piece).toList else []) ++ blocks rest := by
  rw [blocks, List.splitOn_append_cons_self_of_not_mem hpiece, Block.ofPieces_cons]
  simp only [head?_splitOn_brace]
  rfl

/-- A character that can neither start a label nor close a body may be passed over. -/
theorem blocks_cons_of_not_isWord {c : Char} (hword : isWord c = false) (hbrace : c ≠ '}')
    (rest : Text) : blocks (c :: rest) = blocks rest := by
  obtain ⟨piece, pieces, hpieces⟩ := List.exists_cons_of_ne_nil (List.splitOn_ne_nil '}' rest)
  have hnone : Block.opening? (c :: piece) = none :=
    Block.opening?_of_head? (head?_cons_of_eq_false hword)
  rw [blocks, blocks, List.splitOn_cons_eq_if_modifyHead, hpieces,
    if_neg (by simpa using hbrace), List.modifyHead_cons, Block.ofPieces_cons, Block.ofPieces_cons,
    Block.ofPiece?_cons, hnone, Option.none_or]

theorem blocks_append_of_blank {gap : Text} (hgap : Blank gap) (rest : Text) :
    blocks (gap ++ rest) = blocks rest := by
  induction gap with
  | nil => rfl
  | cons c gap ih =>
    have hc := hgap c List.mem_cons_self
    have hbrace : c ≠ '}' := by
      rintro rfl
      exact absurd hc (by decide)
    rw [List.cons_append, blocks_cons_of_not_isWord (isWord_of_isBlank hc) hbrace,
      ih fun d hd ↦ hgap d (List.mem_cons_of_mem c hd)]

/-- A block that opens at the start of a text is the first one if its body is closed. -/
theorem blocks_append_of_opens {piece : Text} {block : Block} (hopens : Block.Opens piece block)
    (hpiece : '}' ∉ piece) (rest : Text) :
    blocks (piece ++ '}' :: ';' :: rest) = block :: blocks rest := by
  have hblock : Block.ofPiece? piece = some block :=
    Block.ofPiece?_eq_some_iff.mpr ((Block.opensLeftmost_of_opens hopens).mpr rfl)
  rw [blocks_append_brace hpiece, List.head?_cons, if_pos rfl, hblock,
    blocks_cons_of_not_isWord (by decide) (by decide)]
  rfl

end DevicetreeHeader.Source
