import DevicetreeHeader.Proofs.Source.Opening
import DevicetreeHeader.Proofs.Text.Pattern

/-!
# Searching for blocks

`Block.pattern` describes a block with its two words and its body captured. In this pattern no part
is followed by characters of its own class, so that it matches at a place in at most one way
(`ways_pattern`): nothing is ever given back.

A search for the pattern starts anew after each match, and a place inside a failed header or inside
a nested body may be such a start. All places before the same closing brace lead to that brace,
however, so the leftmost opening of a piece is the one that matches, and the matches are the blocks
of the closed pieces (`map_groups_search`).
-/

set_option autoImplicit false
set_option relaxedAutoImplicit false

namespace DevicetreeHeader.Source.Block

open Text

/-- The body of a block and its end: everything up to a brace, the brace, and a semicolon. -/
def closingPattern : Pattern :=
  [⟨(· != '}'), .any, true⟩, ⟨(· == '}'), .single, false⟩, ⟨(· == ';'), .single, false⟩]

/-- A mark with blanks before it, and a pattern after it. -/
def markPattern (mark : Char) (parts : Pattern) : Pattern :=
  ⟨isBlank, .any, false⟩ :: ⟨(· == mark), .single, false⟩ :: parts

/-- A captured word, and a pattern after it. -/
def wordPattern (parts : Pattern) : Pattern :=
  ⟨isWord, .some, true⟩ :: parts

/-- The colon and the type of a block, and what follows. -/
def typingPattern : Pattern :=
  markPattern ':' (⟨isBlank, .any, false⟩ :: wordPattern (markPattern '{' closingPattern))

/-- A block: `(\w+)\s*:\s*(\w+)\s*\{([^}]*)\};`. -/
def pattern : Pattern :=
  wordPattern typingPattern

theorem pattern_consumes : pattern.consumes = true :=
  rfl

/-- What a search reports of a block. -/
def groups (block : Block) : List Text :=
  [block.label, block.type, block.body]

/-- The body that ends at the first closing brace, and what follows its semicolon. -/
def close? (text : Text) : Option (Text × Text) :=
  match text.dropWhile (· != '}') with
  | '}' :: ';' :: rest => some (text.takeWhile (· != '}'), rest)
  | _ => none

/-- The way in which a block matches at the start of a text. -/
def headed? (text : Text) : Option Way :=
  (opening? text).bind fun block ↦
    (close? block.body).map fun cut ↦ ⟨[block.label, block.type, cut.1], cut.2⟩

/-! ### One place -/

/-- A body with a brace after it is closed if a semicolon follows the brace. -/
theorem close?_append_brace {body : Text} (hbody : '}' ∉ body) (rest : Text) :
    close? (body ++ '}' :: rest) =
      if rest.head? = some ';' then some (body, rest.tail) else none := by
  have hrun : ∀ c ∈ body, (c != '}') = true := by
    intro c hc
    rw [bne_iff_ne]
    rintro rfl
    exact hbody hc
  have hbrace : ∀ c ∈ ('}' :: rest).head?, (c != '}') = false := head?_cons_of_eq_false rfl
  rw [close?, takeWhile_append_of_head? hrun hbrace, dropWhile_append_of_head? hrun hbrace]
  split
  · rename_i after hrest
    obtain rfl : rest = ';' :: after := (List.cons_eq_cons.mp hrest).2
    rfl
  · rename_i hrest
    rw [if_neg]
    intro hhead
    obtain ⟨after, rfl⟩ := List.head?_eq_some_iff.mp hhead
    exact hrest after rfl

theorem close?_eq_some_iff {text body rest : Text} :
    close? text = some (body, rest) ↔ '}' ∉ body ∧ text = body ++ '}' :: ';' :: rest := by
  constructor
  · intro h
    unfold close? at h
    split at h
    · rename_i after hdrop
      obtain ⟨rfl, rfl⟩ : text.takeWhile (· != '}') = body ∧ after = rest := by simpa using h
      refine ⟨fun hmem ↦ ?_, ?_⟩
      · simpa using mem_takeWhile hmem
      · rw [← hdrop, List.takeWhile_append_dropWhile]
    · simp at h
  · rintro ⟨hbody, rfl⟩
    exact close?_append_brace hbody (';' :: rest)

theorem ways_closingPattern (text : Text) :
    closingPattern.ways text = ((close? text).map fun cut ↦ ⟨[cut.1], cut.2⟩).toList := by
  rw [closingPattern, Pattern.ways_any (Pattern.refuses_of_ne_any (by decide) (by simp)), close?]
  cases text.dropWhile (· != '}') with
  | nil => simp
  | cons c rest =>
    rw [Pattern.ways_single_cons]
    by_cases hc : c = '}'
    · subst hc
      cases rest with
      | nil => simp
      | cons d rest =>
        rw [Pattern.ways_single_cons]
        by_cases hd : d = ';'
        · subst hd
          rfl
        · simp [hd]
    · simp [hc]

private theorem beq_of_isBlank {mark : Char} (hmark : isBlank mark = false) (c : Char)
    (hc : isBlank c = true) : (c == mark) = false := by
  rw [beq_eq_false_iff_ne]
  rintro rfl
  rw [hmark] at hc
  exact Bool.false_ne_true hc

private theorem beq_of_isWord {mark : Char} (hmark : isWord mark = false) (c : Char)
    (hc : isWord c = true) : (c == mark) = false := by
  rw [beq_eq_false_iff_ne]
  rintro rfl
  rw [hmark] at hc
  exact Bool.false_ne_true hc

theorem ways_markPattern {mark : Char} (hmark : isBlank mark = false) (parts : Pattern)
    {text : Text} {c : Char} {rest : Text} (htext : text.dropWhile isBlank = c :: rest) :
    (markPattern mark parts).ways text = if c = mark then parts.ways rest else [] := by
  rw [markPattern, Pattern.ways_any (Pattern.refuses_of_ne_any (by decide) (beq_of_isBlank hmark)),
    htext, Pattern.ways_single_cons]
  simp only [Way.after_uncaptured, List.map_id, beq_iff_eq]

theorem ways_markPattern_of_blank {mark : Char} (hmark : isBlank mark = false) (parts : Pattern)
    {text : Text} (htext : text.dropWhile isBlank = []) :
    (markPattern mark parts).ways text = [] := by
  rw [markPattern, Pattern.ways_any (Pattern.refuses_of_ne_any (by decide) (beq_of_isBlank hmark)),
    htext, Pattern.ways_single_nil, List.map_nil]

theorem refuses_markPattern {mark : Char} (hmark : isWord mark = false) (parts : Pattern) :
    (markPattern mark parts).Refuses isWord :=
  Pattern.refuses_any (fun _ ↦ isBlank_of_isWord)
    (Pattern.refuses_of_ne_any (by decide) (beq_of_isWord hmark))

theorem ways_wordPattern {parts : Pattern} (hparts : parts.Refuses isWord) (text : Text) :
    (wordPattern parts).ways text =
      if text.takeWhile isWord = [] then []
      else (parts.ways (text.dropWhile isWord)).map fun way ↦
        ⟨text.takeWhile isWord :: way.groups, way.rest⟩ := by
  cases text with
  | nil => rfl
  | cons c rest =>
    by_cases hc : isWord c = true
    · rw [wordPattern, Pattern.ways_some hparts hc, List.takeWhile_cons_of_pos hc,
        List.dropWhile_cons_of_pos hc, if_neg (List.cons_ne_nil _ _)]
      rfl
    · rw [List.takeWhile_cons_of_neg hc, if_pos rfl, wordPattern, Pattern.ways_eq_nil_of_head?
        (by decide) (head?_cons_of_eq_false (by simpa using hc))]

theorem refuses_wordPattern (parts : Pattern) : (wordPattern parts).Refuses isBlank :=
  Pattern.refuses_of_ne_any (by decide) fun _ ↦ isWord_of_isBlank

theorem ways_typingPattern (text : Text) : typingPattern.ways text =
    ((typed? text).bind fun typed ↦ (close? typed.2).map fun cut ↦
      (⟨[typed.1, cut.1], cut.2⟩ : Way)).toList := by
  rw [typingPattern, typed?]
  cases hcolon : text.dropWhile isBlank with
  | nil => rw [ways_markPattern_of_blank (by decide) _ hcolon]; rfl
  | cons c afterColon =>
    rw [ways_markPattern (by decide) _ hcolon]
    by_cases hc : c = ':'
    · subst hc
      rw [if_pos rfl, Pattern.ways_any (refuses_wordPattern _), Way.after_uncaptured, List.map_id,
        ways_wordPattern (refuses_markPattern (by decide) _)]
      cases hword : (afterColon.dropWhile isBlank).takeWhile isWord with
      | nil => simp [hword]
      | cons d word =>
        rw [if_neg (List.cons_ne_nil _ _)]
        cases hbrace : ((afterColon.dropWhile isBlank).dropWhile isWord).dropWhile isBlank with
        | nil =>
          rw [ways_markPattern_of_blank (by decide) _ hbrace]
          simp [hword, hbrace]
        | cons e body =>
          rw [ways_markPattern (by decide) _ hbrace]
          by_cases he : e = '{'
          · subst he
            rw [if_pos rfl, ways_closingPattern]
            cases hclose : close? body <;> simp [hword, hbrace, hclose]
          · simp [hword, hbrace, he]
    · simp [hc]

/-- A block matches at a place in at most one way. -/
theorem ways_pattern (text : Text) : pattern.ways text = (headed? text).toList := by
  have hrefuses : typingPattern.Refuses isWord := refuses_markPattern (by decide) _
  rw [pattern, ways_wordPattern hrefuses, ways_typingPattern, headed?, opening?]
  cases text.takeWhile isWord with
  | nil => simp
  | cons c label =>
    rw [if_neg (List.cons_ne_nil _ _)]
    cases typed? (text.dropWhile isWord) with
    | none => simp
    | some typed => cases hclose : close? typed.2 <;> simp [hclose]

theorem mem_ways_pattern {text : Text} {way : Way} :
    way ∈ pattern.ways text ↔ headed? text = some way := by
  rw [ways_pattern, Option.mem_toList]

/-- What a match says about the text: a block opens where it starts, and its body reaches to the
first closing brace, which a semicolon follows. -/
theorem headed?_eq_some_iff {text : Text} {way : Way} : headed? text = some way ↔
    ∃ label type body, way.groups = [label, type, body] ∧ '}' ∉ body ∧
      Opens text ⟨label, type, body ++ '}' :: ';' :: way.rest⟩ := by
  obtain ⟨groups, rest⟩ := way
  constructor
  · intro h
    obtain ⟨⟨label, type, after⟩, hopening, hclosing⟩ := Option.bind_eq_some_iff.mp h
    obtain ⟨⟨body, rest'⟩, hclose, hway⟩ := Option.map_eq_some_iff.mp hclosing
    obtain ⟨rfl, rfl⟩ := Way.mk.inj hway
    obtain ⟨hbody, hafter⟩ := close?_eq_some_iff.mp hclose
    exact ⟨label, type, body, rfl, hbody, hafter ▸ opening?_eq_some_iff.mp hopening⟩
  · rintro ⟨label, type, body, hgroups, hbody, hopens⟩
    have hclose : close? (body ++ '}' :: ';' :: rest) = some (body, rest) :=
      close?_eq_some_iff.mpr ⟨hbody, rfl⟩
    rw [headed?, opening?_eq_some_iff.mpr hopens, Option.bind_some, hclose, Option.map_some]
    exact congrArg (fun groups ↦ some (Way.mk groups rest)) hgroups.symm

/-! ### All places before one brace -/

/-- No closing brace stands between the label of a block and its opening brace. -/
theorem not_mem_header {label type gap₁ gap₂ gap₃ : Text} (hlabel : Word label) (htype : Word type)
    (hgap₁ : Blank gap₁) (hgap₂ : Blank gap₂) (hgap₃ : Blank gap₃) :
    '}' ∉ label ++ (gap₁ ++ ':' :: (gap₂ ++ (type ++ (gap₃ ++ ['{'])))) := by
  have hword : ∀ {word}, Word word → '}' ∉ word := fun h ↦ not_mem_of_word h (by decide)
  have hblank : ∀ {gap}, Blank gap → '}' ∉ gap := fun h ↦ not_mem_of_blank h (by decide)
  simp [hword hlabel, hword htype, hblank hgap₁, hblank hgap₂, hblank hgap₃]

/-- A block that opens before a closing brace opens there with any body. -/
theorem opens_append_brace_iff {text rest : Text} (htext : '}' ∉ text) {block : Block} :
    Opens (text ++ '}' :: rest) block ↔
      ∃ body, Opens text { block with body } ∧ block.body = body ++ '}' :: rest := by
  obtain ⟨label, type, body⟩ := block
  constructor
  · rintro ⟨hlabel, htype, gap₁, gap₂, gap₃, hgap₁, hgap₂, hgap₃, hsplit⟩
    have hbrace := not_mem_header hlabel htype hgap₁ hgap₂ hgap₃
    have hsplit : text ++ '}' :: rest =
        (label ++ (gap₁ ++ ':' :: (gap₂ ++ (type ++ (gap₃ ++ ['{']))))) ++ body := by
      simpa using hsplit
    rcases List.append_eq_append_iff.mp hsplit with ⟨inner, hhead, hrest⟩ | ⟨inner, htail, hbody⟩
    · cases inner with
      | nil =>
        refine ⟨[], ⟨hlabel, htype, gap₁, gap₂, gap₃, hgap₁, hgap₂, hgap₃, ?_⟩, hrest.symm⟩
        simpa using hhead.symm
      | cons c inner =>
        obtain ⟨rfl, -⟩ := List.cons_eq_cons.mp hrest
        exact absurd (hhead ▸ List.mem_append_right _ List.mem_cons_self) hbrace
    · exact ⟨inner, ⟨hlabel, htype, gap₁, gap₂, gap₃, hgap₁, hgap₂, hgap₃, by simpa using htail⟩,
        hbody⟩
  · rintro ⟨inner, ⟨hlabel, htype, gap₁, gap₂, gap₃, hgap₁, hgap₂, hgap₃, rfl⟩, rfl⟩
    exact ⟨hlabel, htype, gap₁, gap₂, gap₃, hgap₁, hgap₂, hgap₃, by simp⟩

theorem opening?_append_brace {text : Text} (htext : '}' ∉ text) (rest : Text) :
    opening? (text ++ '}' :: rest) =
      (opening? text).map fun block ↦ { block with body := block.body ++ '}' :: rest } := by
  cases hopening : opening? text with
  | none =>
    rw [Option.map_none, Option.eq_none_iff_forall_ne_some]
    intro block hblock
    obtain ⟨body, hopens, -⟩ := (opens_append_brace_iff htext).mp (opening?_eq_some_iff.mp hblock)
    rw [opening?_eq_some_iff.mpr hopens] at hopening
    exact Option.some_ne_none _ hopening
  | some block =>
    rw [Option.map_some, opening?_eq_some_iff, opens_append_brace_iff htext]
    exact ⟨block.body, opening?_eq_some_iff.mp hopening, rfl⟩

theorem not_mem_of_opens {text : Text} {block : Block} (hopens : Opens text block)
    (htext : '}' ∉ text) : '}' ∉ block.body := by
  obtain ⟨-, -, gap₁, gap₂, gap₃, -, -, -, rfl⟩ := hopens
  intro hbody
  exact htext (by simp [hbody])

/-- A place before a closing brace matches if a block opens there and a semicolon follows the
brace. -/
theorem headed?_append_brace {text : Text} (htext : '}' ∉ text) (rest : Text) :
    headed? (text ++ '}' :: rest) =
      if rest.head? = some ';' then (opening? text).map fun block ↦ ⟨block.groups, rest.tail⟩
      else none := by
  rw [headed?, opening?_append_brace htext]
  cases hopening : opening? text with
  | none => split <;> rfl
  | some block =>
    have hbody := not_mem_of_opens (opening?_eq_some_iff.mp hopening) htext
    simp only [Option.map_some, Option.bind_some, close?_append_brace hbody]
    split <;> rfl

/-! ### The search -/

theorem findAll_cons_of_headed? {c : Char} {rest : Text} {way : Way}
    (hway : headed? (c :: rest) = some way) : pattern.findAll pattern_consumes (c :: rest) =
      ⟨way, c :: rest⟩ :: pattern.findAll pattern_consumes way.rest := by
  refine Pattern.findAll_cons_of_head? ?_
  rw [ways_pattern, hway]
  rfl

theorem findAll_cons_of_headed?_eq_none {c : Char} {rest : Text}
    (hnone : headed? (c :: rest) = none) :
    pattern.findAll pattern_consumes (c :: rest) = pattern.findAll pattern_consumes rest := by
  refine Pattern.findAll_cons_of_ways_eq_nil ?_
  rw [ways_pattern, hnone]
  rfl

theorem headed?_cons_of_not_isWord {c : Char} (hc : isWord c = false) (rest : Text) :
    headed? (c :: rest) = none := by
  rw [headed?, opening?_of_head? (head?_cons_of_eq_false hc), Option.bind_none]

/-- The matches of the pattern in a text. -/
abbrev search (text : Text) : List Match :=
  pattern.findAll pattern_consumes text

/-- The steps of the search: over a match, and over a character where no match starts. -/
theorem searchInduction {motive : Text → Prop} (nil : motive [])
    (found : ∀ c rest way, headed? (c :: rest) = some way → motive way.rest → motive (c :: rest))
    (skipped : ∀ c rest, headed? (c :: rest) = none → motive rest → motive (c :: rest))
    (text : Text) : motive text := by
  induction text using Pattern.findAll.induct pattern pattern_consumes with
  | case1 => exact nil
  | case2 c rest way hway ih =>
    exact found c rest way (mem_ways_pattern.mp (List.mem_of_mem_head? hway)) ih
  | case3 c rest hnone ih =>
    rw [ways_pattern] at hnone
    exact skipped c rest (by simpa using hnone) ih

theorem headed?_of_mem_search {text : Text} {m : Match} (hm : m ∈ search text) :
    m.start <:+ text ∧ headed? m.start = some m.toWay := by
  obtain ⟨hstart, hway⟩ := Pattern.mem_findAll hm
  exact ⟨hstart, mem_ways_pattern.mp (List.mem_of_mem_head? hway)⟩

/-- The matches of a text up to a closing brace: the block of the piece, if a semicolon follows. -/
theorem map_groups_search_append_brace {piece : Text} (hpiece : '}' ∉ piece) (rest : Text) :
    (search (piece ++ '}' :: rest)).map (·.groups) =
      (if rest.head? = some ';' then (ofPiece? piece).toList.map groups else []) ++
        (search rest).map (·.groups) := by
  induction piece with
  | nil =>
    rw [List.nil_append, search, findAll_cons_of_headed?_eq_none (headed?_cons_of_not_isWord rfl _)]
    simp
  | cons c piece ih =>
    have htail : '}' ∉ piece := fun h ↦ hpiece (List.mem_cons_of_mem c h)
    have hhead := headed?_append_brace hpiece rest
    rw [List.cons_append] at hhead ⊢
    rw [ofPiece?_cons]
    cases hopening : opening? (c :: piece) with
    | none =>
      have hnone : headed? (c :: (piece ++ '}' :: rest)) = none := by
        rw [hhead, hopening]
        split <;> rfl
      rw [search, findAll_cons_of_headed?_eq_none hnone, Option.none_or]
      exact ih htail
    | some block =>
      by_cases hrest : rest.head? = some ';'
      · obtain ⟨after, rfl⟩ := List.head?_eq_some_iff.mp hrest
        rw [hopening, if_pos hrest] at hhead
        rw [search, findAll_cons_of_headed? hhead, search,
          findAll_cons_of_headed?_eq_none (headed?_cons_of_not_isWord rfl after)]
        rfl
      · rw [if_neg hrest] at hhead
        rw [search, findAll_cons_of_headed?_eq_none hhead, if_neg hrest]
        rw [if_neg hrest] at ih
        exact ih htail

theorem search_of_not_mem {text : Text} (htext : '}' ∉ text) : search text = [] := by
  rw [List.eq_nil_iff_forall_not_mem]
  intro m hm
  obtain ⟨hstart, hway⟩ := headed?_of_mem_search hm
  obtain ⟨label, type, body, -, -, -, -, gap₁, gap₂, gap₃, -, -, -, hsplit⟩ :=
    headed?_eq_some_iff.mp hway
  exact htext (hstart.subset (by rw [hsplit]; simp))

/-- The matches of a text are its blocks. -/
theorem map_groups_search (text : Text) :
    (search text).map (·.groups) = (blocks text).map groups := by
  induction hlength : text.length using Nat.strongRecOn generalizing text with
  | _ length ih =>
    by_cases hbrace : '}' ∈ text
    · obtain ⟨piece, rest, rfl, hpiece⟩ := List.eq_append_cons_of_mem hbrace
      rw [map_groups_search_append_brace hpiece, blocks_append_brace hpiece, List.map_append,
        ih rest.length (by simp [← hlength]; omega) rest rfl]
      split <;> rfl
    · rw [search_of_not_mem hbrace, blocks_of_not_mem hbrace]
      rfl

/-! ### Where matches begin and end -/

/-- A match ends after the first closing brace from its start on. -/
theorem exists_front_of_headed? {text : Text} {way : Way} (hway : headed? text = some way) :
    ∃ front, '}' ∉ front ∧ text = front ++ '}' :: ';' :: way.rest := by
  obtain ⟨label, type, body, -, hbody, hlabel, htype, gap₁, gap₂, gap₃, hgap₁, hgap₂, hgap₃, rfl⟩ :=
    headed?_eq_some_iff.mp hway
  refine ⟨label ++ (gap₁ ++ ':' :: (gap₂ ++ (type ++ (gap₃ ++ ['{'])))) ++ body, ?_, by simp⟩
  exact fun h ↦ (List.mem_append.mp h).elim (not_mem_header hlabel htype hgap₁ hgap₂ hgap₃) hbody

/-- A match that starts before the end of another one ends where that one ends. -/
theorem rest_eq_or_suffix {text place : Text} {way other : Way} (hway : headed? text = some way)
    (hplace : place <:+ text) (hother : headed? place = some other) :
    other.rest = way.rest ∨ place <:+ way.rest := by
  obtain ⟨front, hfront, rfl⟩ := exists_front_of_headed? hway
  obtain ⟨before, hbefore⟩ := hplace
  rcases List.append_eq_append_iff.mp hbefore with ⟨inner, rfl, hinner⟩ | ⟨inner, rfl, hinner⟩
  · obtain ⟨front', hfront', rfl⟩ := exists_front_of_headed? hother
    have hinner' : '}' ∉ inner := fun h ↦ hfront (List.mem_append_right before h)
    have hclose : close? (inner ++ '}' :: ';' :: way.rest) = some (inner, way.rest) :=
      close?_eq_some_iff.mpr ⟨hinner', rfl⟩
    rw [← hinner, close?_eq_some_iff.mpr ⟨hfront', rfl⟩] at hclose
    exact Or.inl (Prod.mk.inj (Option.some.inj hclose)).2
  · match inner with
    | [] =>
      rw [List.nil_append] at hinner
      rw [← hinner, headed?_cons_of_not_isWord rfl] at hother
      exact absurd hother (Option.some_ne_none other).symm
    | [_] =>
      have hplace : ';' :: way.rest = place := (List.cons_eq_cons.mp hinner).2
      rw [← hplace, headed?_cons_of_not_isWord rfl] at hother
      exact absurd hother (Option.some_ne_none other).symm
    | _ :: _ :: inner =>
      exact Or.inr ⟨inner, (List.cons_eq_cons.mp (List.cons_eq_cons.mp hinner).2).2.symm⟩

/-- Wherever the pattern matches, a match of the search ends at the same place. -/
theorem exists_mem_search_of_headed? {text place : Text} (hplace : place <:+ text) {way : Way}
    (hway : headed? place = some way) : ∃ m ∈ search text, m.rest = way.rest := by
  induction text using searchInduction with
  | nil =>
    rw [List.suffix_nil.mp hplace] at hway
    exact absurd hway (Option.some_ne_none way).symm
  | found c rest first hfirst ih =>
    rw [search, findAll_cons_of_headed? hfirst]
    rcases rest_eq_or_suffix hfirst hplace hway with heq | hlater
    · exact ⟨_, List.mem_cons_self, heq.symm⟩
    · obtain ⟨m, hm, heq⟩ := ih hlater
      exact ⟨m, List.mem_cons_of_mem _ hm, heq⟩
  | skipped c rest hnone ih =>
    rw [search, findAll_cons_of_headed?_eq_none hnone]
    rcases List.suffix_cons_iff.mp hplace with rfl | hplace
    · exact absurd (hway.symm.trans hnone) (Option.some_ne_none way)
    · exact ih hplace

theorem headed?_cons_of_isWord {c : Char} {rest : Text} (hc : isWord c = true) {way : Way}
    (hway : headed? rest = some way) : ∃ longer, headed? (c :: rest) = some longer := by
  obtain ⟨label, type, body, -, hbody, hlabel, htype, gaps⟩ := headed?_eq_some_iff.mp hway
  refine ⟨⟨[c :: label, type, body], way.rest⟩, headed?_eq_some_iff.mpr
    ⟨c :: label, type, body, rfl, hbody, ⟨List.cons_ne_nil _ _, ?_⟩, htype, ?_⟩⟩
  · intro d hd
    rcases List.mem_cons.mp hd with rfl | hd
    · exact hc
    · exact hlabel.2 d hd
  · obtain ⟨gap₁, gap₂, gap₃, hgap₁, hgap₂, hgap₃, rfl⟩ := gaps
    exact ⟨gap₁, gap₂, gap₃, hgap₁, hgap₂, hgap₃, rfl⟩

/-- No match starts inside a word. -/
theorem not_isWord_before_search {text before : Text} {m : Match} (hm : m ∈ search text)
    (hbefore : text = before ++ m.start) : ∀ c ∈ before.getLast?, isWord c = false := by
  induction text using searchInduction generalizing before with
  | nil => simp [search, Pattern.findAll] at hm
  | found c rest first hfirst ih =>
    rw [search, findAll_cons_of_headed? hfirst, List.mem_cons] at hm
    rcases hm with rfl | hm
    · obtain rfl : before = [] := by simpa using hbefore
      simp
    · -- A later match starts after the semicolon of this one.
      obtain ⟨later, hlater⟩ := (headed?_of_mem_search hm).1
      obtain ⟨front, -, hfront⟩ := exists_front_of_headed? hfirst
      have hsplit : before = front ++ '}' :: ';' :: later := by
        refine (List.append_left_inj m.start).mp ?_
        rw [← hbefore, hfront, ← hlater]
        simp
      rw [hsplit]
      cases later with
      | nil => simp [show isWord ';' = false from rfl]
      | cons d later =>
        have hlast := ih hm hlater.symm
        simpa [List.getLast?_append, List.getLast?_cons] using hlast
  | skipped c rest hnone ih =>
    rw [search, findAll_cons_of_headed?_eq_none hnone] at hm
    obtain ⟨⟨later, hlater⟩, hway⟩ := headed?_of_mem_search hm
    obtain rfl : before = c :: later := by
      refine (List.append_left_inj m.start).mp ?_
      rw [← hbefore, List.cons_append, hlater]
    cases later with
    | nil =>
      have hrest : headed? rest = some m.toWay := hlater ▸ hway
      have hc : isWord c ≠ true := by
        intro hc
        obtain ⟨longer, hlonger⟩ := headed?_cons_of_isWord hc hrest
        exact absurd (hlonger.symm.trans hnone) (Option.some_ne_none longer)
      simpa using hc
    | cons d later =>
      have hlast := ih hm hlater.symm
      simpa [List.getLast?_cons] using hlast

/-! ### The search and the pieces -/

/-- A word that cannot be made longer where it stands. -/
def MaximalWord (before word after : Text) : Prop :=
  Word word ∧ (∀ c ∈ before.getLast?, isWord c = false) ∧ ∀ c ∈ after.head?, isWord c = false

/-- A match in a text is a block whose label and type are maximal words. -/
def MatchesBlock (text : Text) (m : Match) : Prop :=
  ∃ before label gap₁ gap₂ type gap₃ body, Blank gap₁ ∧ Blank gap₂ ∧ Blank gap₃ ∧ '}' ∉ body ∧
    m.groups = [label, type, body] ∧ text = before ++ m.start ∧
    m.start = label ++ gap₁ ++ ':' :: gap₂ ++ type ++ gap₃ ++ '{' :: body ++ '}' :: ';' :: m.rest ∧
    MaximalWord before label (gap₁ ++ ':' :: gap₂ ++ type ++ gap₃ ++ '{' :: body) ∧
    MaximalWord (before ++ label ++ gap₁ ++ ':' :: gap₂) type (gap₃ ++ '{' :: body)

theorem matchesBlock_of_mem {text : Text} {m : Match} (hm : m ∈ search text) :
    MatchesBlock text m := by
  obtain ⟨⟨before, hbefore⟩, hway⟩ := headed?_of_mem_search hm
  obtain ⟨label, type, body, hgroups, hbody, hlabel, htype, gap₁, gap₂, gap₃, hgap₁, hgap₂, hgap₃,
    hstart⟩ := headed?_eq_some_iff.mp hway
  refine ⟨before, label, gap₁, gap₂, type, gap₃, body, hgap₁, hgap₂, hgap₃, hbody, hgroups,
    hbefore.symm, by simpa using hstart, ⟨hlabel, not_isWord_before_search hm hbefore.symm, ?_⟩,
    htype, getLast?_gap hgap₂ (fun _ ↦ isWord_of_isBlank) rfl _,
    head?_gap hgap₃ (fun _ ↦ isWord_of_isBlank) rfl body⟩
  simpa using head?_gap hgap₁ (fun _ ↦ isWord_of_isBlank) (rfl : isWord ':' = false)
    (gap₂ ++ (type ++ (gap₃ ++ '{' :: body)))

/-- A search for the pattern of a block finds the leftmost opening of every closed piece and
nothing else. Its matches are the blocks of the text, their words are maximal, no two of them
overlap, and wherever the pattern matches at all, one of them ends at the same place. -/
theorem findAll_pattern (text : Text) :
    (search text).map (·.groups) = ((closedPieces text).filterMap ofPiece?).map groups ∧
      blocks text = (closedPieces text).filterMap ofPiece? ∧
      (∀ piece block, ofPiece? piece = some block ↔ OpensLeftmost piece block) ∧
      (∀ m ∈ search text, MatchesBlock text m) ∧
      ((search text).Pairwise fun first second ↦
        second.start <:+ first.rest ∧ second.rest.length < first.rest.length) ∧
      ∀ place, place <:+ text → ∀ way ∈ pattern.ways place,
        ∃ m ∈ search text, m.rest = way.rest := by
  refine ⟨?_, blocks_eq_filterMap text, fun _ _ ↦ ofPiece?_eq_some_iff,
    fun _ ↦ matchesBlock_of_mem, Pattern.pairwise_findAll text, ?_⟩
  · rw [map_groups_search, blocks_eq_filterMap]
  · intro place hplace way hway
    exact exists_mem_search_of_headed? hplace (mem_ways_pattern.mp hway)

end DevicetreeHeader.Source.Block
