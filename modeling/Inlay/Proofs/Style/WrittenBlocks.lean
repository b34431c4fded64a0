import Inlay.Proofs.Style.Composition

namespace Inlay.Style

structure Declaration.WellFormed (declaration : Declaration) : Prop where
  property_isWord : Text.IsWord declaration.property
  property_begins : declaration.property.head? ≠ some '!'
  value_isWords : Text.IsWords declaration.value

instance (declaration : Declaration) : Decidable declaration.WellFormed :=
  decidable_of_iff (Text.IsWord declaration.property ∧ declaration.property.head? ≠ some '!' ∧
      Text.IsWords declaration.value)
    ⟨fun h => ⟨h.1, h.2.1, h.2.2⟩, fun h => ⟨h.property_isWord, h.property_begins, h.value_isWords⟩⟩

structure Block.WellFormed (block : Block) : Prop where
  selector_ne_nil : block.selector ≠ []
  selector_trim : Text.trim block.selector = block.selector
  selector_lineFeed : '\n' ∉ block.selector
  declarations : ∀ declaration ∈ block.declarations, declaration.WellFormed

instance (block : Block) : Decidable block.WellFormed :=
  decidable_of_iff (block.selector ≠ [] ∧ Text.trim block.selector = block.selector ∧
      '\n' ∉ block.selector ∧ ∀ declaration ∈ block.declarations, declaration.WellFormed)
    ⟨fun h => ⟨h.1, h.2.1, h.2.2.1, h.2.2.2⟩,
      fun h => ⟨h.selector_ne_nil, h.selector_trim, h.selector_lineFeed, h.declarations⟩⟩

def Line.WellFormed : Line → Prop
  | opening selector => Text.trim selector = selector ∧ '\n' ∉ selector
  | closing => True
  | declaration property value => (Declaration.mk property value).WellFormed
  | ignored => True

theorem Line.Reads.wellFormed {raw : Text} {line : Line} (h : Reads raw line)
    (hraw : '\n' ∉ raw) : line.WellFormed := by
  cases h with
  | @opening selector trim_eq =>
      refine ⟨Text.trim_trim selector, ?_⟩
      intro hfeed
      exact hraw (mem_of_mem_selector trim_eq hfeed)
  | closing => trivial
  | @declaration property first others begins space words_eq =>
      have hwords : ∀ word ∈ property :: first :: others, Text.IsWord word := by
        intro word hword
        rw [← words_eq] at hword
        exact Text.isWord_of_mem_words hword
      obtain ⟨hproperty, hvalue⟩ := List.forall_mem_cons.mp hwords
      refine ⟨hproperty, ?_, ⟨first :: others, List.cons_ne_nil first others, hvalue, rfl⟩⟩
      -- The first word begins where the trimmed line begins.
      cases htrim : Text.trim raw with
      | nil =>
          rw [htrim] at space
          cases space
      | cons c rest =>
          have hc : Text.isBlank c = false := by
            apply Text.not_isBlank_of_trim_eq
            rw [← htrim, Text.trim_trim]
          obtain ⟨word, more, hfirst⟩ := Text.exists_words_cons hc rest
          rw [htrim, hfirst] at words_eq
          rw [htrim] at begins
          obtain ⟨rfl, -⟩ := List.cons.inj words_eq
          exact begins
  | ignored => trivial

theorem Block.WellFormed.declare {block : Block} (h : block.WellFormed) {property value : Text}
    (hdeclaration : (Declaration.mk property value).WellFormed) :
    (block.declare property value).WellFormed := by
  refine ⟨h.selector_ne_nil, h.selector_trim, h.selector_lineFeed, ?_⟩
  intro declaration hmem
  rcases List.mem_append.mp hmem with hmem | hmem
  · exact h.declarations declaration hmem
  · cases List.mem_singleton.mp hmem
    exact hdeclaration

theorem wellFormed_of_mem_startBlock {selector : Text} (h : (Line.opening selector).WellFormed)
    {block : Block} (hblock : block ∈ startBlock selector) : block.WellFormed := by
  rw [startBlock] at hblock
  split at hblock
  · cases hblock
  · rename_i hselector
    cases hblock
    exact ⟨mt List.isEmpty_iff.mpr hselector, h.1, h.2, List.forall_mem_nil _⟩

theorem wellFormed_of_mem_blocksFrom {lines : List Line} (hlines : ∀ line ∈ lines, line.WellFormed)
    {current : Option Block} (hcurrent : ∀ block ∈ current, block.WellFormed) {block : Block}
    (hblock : block ∈ blocksFrom current lines) : block.WellFormed := by
  induction lines generalizing current with
  | nil => exact hcurrent block (Option.mem_toList.mp hblock)
  | cons first rest ih =>
      obtain ⟨hfirst, hrest⟩ := List.forall_mem_cons.mp hlines
      cases first with
      | opening selector =>
          rcases List.mem_append.mp hblock with hblock | hblock
          · exact hcurrent block (Option.mem_toList.mp hblock)
          · exact ih hrest (fun _ hstart => wellFormed_of_mem_startBlock hfirst hstart) hblock
      | closing =>
          rcases List.mem_append.mp hblock with hblock | hblock
          · exact hcurrent block (Option.mem_toList.mp hblock)
          · exact ih hrest (fun _ hnone => by cases hnone) hblock
      | declaration property value =>
          apply ih hrest _ hblock
          intro declared hdeclared
          obtain ⟨filled, hfilled, rfl⟩ := Option.map_eq_some_iff.mp hdeclared
          exact (hcurrent filled hfilled).declare hfirst
      | ignored => exact ih hrest hcurrent hblock

theorem wellFormed_of_mem_blocks {source : Text} {block : Block} (h : block ∈ blocks source) :
    block.WellFormed := by
  apply wellFormed_of_mem_blocksFrom _ _ h
  · intro line hline
    obtain ⟨raw, hraw, rfl⟩ := List.mem_map.mp hline
    exact (Line.reads_classify raw).wellFormed (Text.lineFeed_not_mem_lines hraw)
  · intro block hnone
    cases hnone

def Declaration.written (declaration : Declaration) : Text :=
  declaration.property ++ ' ' :: (declaration.value ++ ['\n'])

def Block.written (block : Block) : Text :=
  '!' :: (block.selector ++ '\n' :: (block.declarations.flatMap Declaration.written ++ ['@', '\n']))

def writtenBlocks (blocks : List Block) : Text :=
  blocks.flatMap Block.written

def Declaration.line (declaration : Declaration) : Line :=
  .declaration declaration.property declaration.value

def Block.lines (block : Block) : List Line :=
  .opening block.selector :: (block.declarations.map Declaration.line ++ [.closing])

theorem readPieces_line {raw : Text} (h : '\n' ∉ raw) (rest : Text) :
    readPieces (raw ++ '\n' :: rest) = Line.classify raw :: readPieces rest := by
  rw [readPieces_append_cons, readPieces_of_not_mem h, List.singleton_append]

namespace Declaration

theorem WellFormed.classify_eq {declaration : Declaration} (h : declaration.WellFormed) :
    Line.classify (declaration.property ++ ' ' :: declaration.value) = declaration.line := by
  obtain ⟨hproperty, hbegins, parts, hne, hparts, hvalue⟩ := h
  obtain ⟨first, others, rfl⟩ := List.exists_cons_of_ne_nil hne
  have hwords : ∀ word ∈ declaration.property :: first :: others, Text.IsWord word :=
    List.forall_mem_cons.mpr ⟨hproperty, hparts⟩
  rw [Declaration.line, hvalue, ← Text.unwords_cons_cons]
  apply Line.Reads.classify_eq
  apply Line.Reads.declaration
  · rwa [Text.trim_unwords hwords, Text.head?_unwords hproperty]
  · rw [Text.trim_unwords hwords, Text.unwords_cons_cons]
    simp
  · rw [Text.trim_unwords hwords, Text.words_unwords hwords]

theorem WellFormed.lineFeed_not_mem {declaration : Declaration} (h : declaration.WellFormed) :
    '\n' ∉ declaration.property ++ ' ' :: declaration.value := by
  obtain ⟨hproperty, -, parts, -, hparts, hvalue⟩ := h
  have hword {word : Text} (hword : Text.IsWord word) : '\n' ∉ word := by
    intro hfeed
    cases hword.not_blank '\n' hfeed
  rw [hvalue, List.mem_append, List.mem_cons]
  intro hmem
  rcases hmem with hfeed | hfeed | hfeed
  · exact hword hproperty hfeed
  · cases hfeed
  · rcases Text.mem_unwords hfeed with hspace | ⟨part, hpart, hfeed⟩
    · cases hspace
    · exact hword (hparts part hpart) hfeed

theorem readPieces_written {declarations : List Declaration}
    (h : ∀ declaration ∈ declarations, declaration.WellFormed) (rest : Text) :
    readPieces (declarations.flatMap written ++ rest) =
      declarations.map line ++ readPieces rest := by
  induction declarations with
  | nil => rfl
  | cons first others ih =>
      obtain ⟨hfirst, hothers⟩ := List.forall_mem_cons.mp h
      have hwritten : (first :: others).flatMap written ++ rest =
          (first.property ++ ' ' :: first.value) ++ '\n' :: (others.flatMap written ++ rest) := by
        simp [written]
      rw [hwritten, readPieces_line hfirst.lineFeed_not_mem, hfirst.classify_eq, ih hothers]
      rfl

end Declaration

namespace Block

theorem WellFormed.classify_eq {block : Block} (h : block.WellFormed) :
    Line.classify ('!' :: block.selector) = .opening block.selector := by
  have htrim : Text.trim ('!' :: block.selector) = '!' :: block.selector := by
    apply Text.trim_eq_self
    · intro c hc
      cases hc
      decide
    · obtain ⟨c, rest, hselector⟩ := List.exists_cons_of_ne_nil h.selector_ne_nil
      intro d hd
      apply Text.not_isBlank_getLast_of_trim_eq h.selector_trim
      rw [hselector] at hd ⊢
      exact hd
  rw [Line.classify_of_opening htrim, h.selector_trim]

theorem readPieces_written {block : Block} (h : block.WellFormed) (rest : Text) :
    readPieces (block.written ++ rest) = block.lines ++ readPieces rest := by
  have hopening : '\n' ∉ '!' :: block.selector := by
    simpa using h.selector_lineFeed
  have hclosing : readPieces (['@'] ++ '\n' :: rest) = .closing :: readPieces rest :=
    readPieces_line (by decide) rest
  have hwritten : block.written ++ rest = ('!' :: block.selector) ++ '\n' ::
      (block.declarations.flatMap Declaration.written ++ (['@'] ++ '\n' :: rest)) := by
    simp [written]
  rw [hwritten, readPieces_line hopening, h.classify_eq,
    Declaration.readPieces_written h.declarations, hclosing]
  simp [lines]

end Block

theorem readPieces_writtenBlocks {blocks : List Block} (h : ∀ block ∈ blocks, block.WellFormed) :
    readPieces (writtenBlocks blocks) = blocks.flatMap Block.lines ++ [.ignored] := by
  induction blocks with
  | nil => rfl
  | cons first others ih =>
      obtain ⟨hfirst, hothers⟩ := List.forall_mem_cons.mp h
      rw [writtenBlocks, List.flatMap_cons, Block.readPieces_written hfirst, ← writtenBlocks,
        ih hothers, List.flatMap_cons, List.append_assoc]

theorem blocksFrom_declarations (block : Block) (declarations : List Declaration)
    (rest : List Line) :
    blocksFrom (some block) (declarations.map Declaration.line ++ .closing :: rest) =
      { block with declarations := block.declarations ++ declarations } ::
        blocksFrom none rest := by
  induction declarations generalizing block with
  | nil => simp [blocksFrom]
  | cons first others ih =>
      rw [List.map_cons, List.cons_append, Declaration.line, blocksFrom, Option.map_some, ih]
      simp [Block.declare]

theorem blocksFrom_lines {blocks : List Block} (h : ∀ block ∈ blocks, block.WellFormed)
    (rest : List Line) :
    blocksFrom none (blocks.flatMap Block.lines ++ rest) = blocks ++ blocksFrom none rest := by
  induction blocks with
  | nil => rfl
  | cons first others ih =>
      obtain ⟨hfirst, hothers⟩ := List.forall_mem_cons.mp h
      have hselector := mt List.isEmpty_iff.mp hfirst.selector_ne_nil
      simp only [List.flatMap_cons, Block.lines, List.cons_append, List.append_assoc,
        List.nil_append, blocksFrom, startBlock, if_neg hselector, blocksFrom_declarations,
        ih hothers]
      rfl

theorem strictFrom_declarations (line : Nat) (current : OpenBlock)
    (declarations : List Declaration) :
    strictFrom line (some current) (declarations.map Declaration.line ++ [.closing]) =
      .ok (declarations.flatMap Declaration.toCss ++ Line.closing.toCss) := by
  induction declarations generalizing line with
  | nil => rfl
  | cons first others ih =>
      rw [List.map_cons, List.cons_append, Declaration.line, strictFrom, ih, List.flatMap_cons,
        List.append_assoc]
      rfl

theorem Block.strictFrom_lines (block : Block) (line : Nat) :
    strictFrom line none block.lines = .ok block.toCss := by
  rw [lines, strictFrom, strictFrom_declarations]
  simp [Except.map, toCss, Line.toCss]

theorem strictFrom_lines (blocks : List Block) (line : Nat) :
    strictFrom line none (blocks.flatMap Block.lines) = .ok (blocks.flatMap Block.toCss) := by
  induction blocks generalizing line with
  | nil => rfl
  | cons first others ih =>
      rw [List.flatMap_cons, strictFrom_append (first.strictFrom_lines line), ih, List.flatMap_cons]
      rfl

theorem blocks_exactly_wellFormed :
    (∀ source, ∀ block ∈ blocks source, block.WellFormed) ∧
      ∀ written : List Block, (∀ block ∈ written, block.WellFormed) →
        blocks (writtenBlocks written) = written ∧
          compileStrict (writtenBlocks written) = .ok (written.flatMap Block.toCss) := by
  refine ⟨fun source block hblock => wellFormed_of_mem_blocks hblock, ?_⟩
  intro written hwritten
  refine ⟨?_, ?_⟩
  · rw [blocks_eq_pieces, readPieces_writtenBlocks hwritten, blocksFrom_lines hwritten]
    exact List.append_nil written
  · rw [compileStrict_eq_pieces, readPieces_writtenBlocks hwritten, strictFrom_append_ignored,
      strictFrom_lines]

/-- A selector that begins with the mark of a block and holds a carriage return, and a property that
is the mark of a block's end. -/
theorem exists_blocks_of_marks :
    ∃ written : List Block, (∀ block ∈ written, block.WellFormed) ∧ written.length = 2 ∧
      blocks (writtenBlocks written) = written ∧
      compileStrict (writtenBlocks written) = .ok (written.flatMap Block.toCss) := by
  have hwritten : ∀ block ∈ ([⟨"! a\r>b".toList, [⟨"@".toList, "1px solid".toList⟩]⟩,
      ⟨"@".toList, []⟩] : List Block), block.WellFormed := by
    decide +kernel
  exact ⟨_, hwritten, rfl, blocks_exactly_wellFormed.2 _ hwritten⟩

end Inlay.Style
