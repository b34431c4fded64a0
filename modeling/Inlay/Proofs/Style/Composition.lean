import Inlay.Proofs.Style.Line
import Inlay.Proofs.Text.Lines
import Inlay.Style.Block

namespace Inlay

def CompileError.addLines (count : Nat) : CompileError → CompileError
  | unbalancedTag offset tag => unbalancedTag offset tag
  | strayBlockClose line => strayBlockClose (line + count)
  | unclosedBlock line selector => unclosedBlock (line + count) selector

namespace Style

def OpenBlock.addLines (count : Nat) (block : OpenBlock) : OpenBlock :=
  { block with line := block.line + count }

/-! One line of the strict compiler. The line either cannot stand where it does or it leaves a block
open behind it or none, and what it says is written in front of the rest. -/

def Line.step (number : Nat) (current : Option OpenBlock) :
    Line → Except CompileError (Option OpenBlock)
  | opening selector =>
      match current with
      | none => .ok (some ⟨number, selector⟩)
      | some block => .error block.error
  | closing =>
      match current with
      | none => .error (.strayBlockClose number)
      | some _ => .ok none
  | declaration _ _ => .ok current
  | ignored => .ok current

theorem map_nil_append (result : Except CompileError Text) : result.map ([] ++ ·) = result := by
  cases result <;> rfl

theorem strictFrom_cons (number : Nat) (current : Option OpenBlock) (first : Line)
    (rest : List Line) :
    strictFrom number current (first :: rest) =
      (first.step number current).bind fun next =>
        (strictFrom (number + 1) next rest).map (first.toCss ++ ·) := by
  cases first with
  | opening selector => cases current <;> rfl
  | closing => cases current <;> rfl
  | declaration property value => rfl
  | ignored => exact (map_nil_append (strictFrom (number + 1) current rest)).symm

theorem strictFrom_cons_eq_ok_iff {number : Nat} {current : Option OpenBlock} {first : Line}
    {rest : List Line} {css : Text} :
    strictFrom number current (first :: rest) = .ok css ↔
      ∃ next tail, first.step number current = .ok next ∧
        strictFrom (number + 1) next rest = .ok tail ∧ css = first.toCss ++ tail := by
  rw [strictFrom_cons]
  cases first.step number current with
  | error error => simp [Except.bind]
  | ok next =>
      cases hrest : strictFrom (number + 1) next rest with
      | error error => simp [Except.bind, Except.map, hrest]
      | ok tail => simp [Except.bind, Except.map, hrest, eq_comm]

theorem Line.step_addLines (line : Line) (count number : Nat) (current : Option OpenBlock) :
    line.step (number + count) (current.map (OpenBlock.addLines count)) =
      ((line.step number current).map (Option.map (OpenBlock.addLines count))).mapError
        (CompileError.addLines count) := by
  cases line with
  | opening selector => cases current <;> rfl
  | closing => cases current <;> rfl
  | declaration property value => rfl
  | ignored => rfl

def readPieces (source : Text) : List Line :=
  (Text.splitOn '\n' source).map Line.classify

theorem readPieces_append_cons (front back : Text) :
    readPieces (front ++ '\n' :: back) = readPieces front ++ readPieces back := by
  rw [readPieces, Text.splitOn_append_cons, List.map_append, readPieces, readPieces]

theorem readPieces_of_not_mem {raw : Text} (h : '\n' ∉ raw) :
    readPieces raw = [Line.classify raw] := by
  rw [readPieces, Text.splitOn_of_not_mem h, List.map_singleton]

theorem length_readPieces (source : Text) :
    (readPieces source).length = source.count '\n' + 1 := by
  rw [readPieces, List.length_map, Text.length_splitOn]

theorem map_classify_of_linesOf {pieces lines : List Text} (h : Text.LinesOf pieces lines) :
    pieces.map Line.classify = lines.map Line.classify ∨
      pieces.map Line.classify = lines.map Line.classify ++ [.ignored] := by
  induction h with
  | done => exact Or.inl rfl
  | afterLast => exact Or.inr rfl
  | line line allBlank rest ih =>
      rw [List.map_cons, List.map_cons, Line.classify_append_blanks allBlank]
      apply ih.imp
      · exact congrArg (Line.classify line :: ·)
      · exact congrArg (Line.classify line :: ·)

theorem strictFrom_append_ignored (lines : List Line) (number : Nat)
    (current : Option OpenBlock) :
    strictFrom number current (lines ++ [.ignored]) = strictFrom number current lines := by
  induction lines generalizing number current with
  | nil => rfl
  | cons first rest ih => simp only [List.cons_append, strictFrom_cons, ih]

theorem blocksFrom_append_ignored (lines : List Line) (current : Option Block) :
    blocksFrom current (lines ++ [.ignored]) = blocksFrom current lines := by
  induction lines generalizing current with
  | nil => rfl
  | cons first rest ih => cases first <;> simp only [List.cons_append, blocksFrom, ih]

section

variable (source : Text)

theorem readPieces_cases :
    readPieces source = readLines source ∨
      readPieces source = readLines source ++ [.ignored] :=
  map_classify_of_linesOf (Text.linesOf_splitOn source)

theorem compile_eq_pieces : compile source = cssOfLines (readPieces source) := by
  obtain hpieces | hpieces := readPieces_cases source
  · rw [hpieces, compile]
  · rw [hpieces, cssOfLines_append, compile]
    exact (List.append_nil _).symm

theorem compileStrict_eq_pieces : compileStrict source = strictFrom 1 none (readPieces source) := by
  obtain hpieces | hpieces := readPieces_cases source
  · rw [hpieces, compileStrict]
  · rw [hpieces, strictFrom_append_ignored, compileStrict]

theorem blocks_eq_pieces : blocks source = blocksFrom none (readPieces source) := by
  obtain hpieces | hpieces := readPieces_cases source
  · rw [hpieces, blocks]
  · rw [hpieces, blocksFrom_append_ignored, blocks]

end

theorem strictFrom_append {lines : List Line} {number : Nat} {current : Option OpenBlock}
    {css : Text} (h : strictFrom number current lines = .ok css) (more : List Line) :
    strictFrom number current (lines ++ more) =
      (strictFrom (number + lines.length) none more).map (css ++ ·) := by
  induction lines generalizing number current css with
  | nil =>
      cases current with
      | some block => cases h
      | none =>
          -- Accepted lines leave no block open, so what follows them is read from outside.
          cases h
          exact (map_nil_append (strictFrom number none more)).symm
  | cons first rest ih =>
      obtain ⟨next, tail, hstep, htail, rfl⟩ := strictFrom_cons_eq_ok_iff.mp h
      rw [List.cons_append, strictFrom_cons, hstep, List.length_cons, Nat.add_comm rest.length,
        ← Nat.add_assoc]
      simp only [Except.bind, ih htail]
      cases strictFrom (number + 1 + rest.length) none more with
      | error error => rfl
      | ok more => simp only [Except.map, List.append_assoc]

theorem strictFrom_addLines (count : Nat) (lines : List Line) (number : Nat)
    (current : Option OpenBlock) :
    strictFrom (number + count) (current.map (OpenBlock.addLines count)) lines =
      (strictFrom number current lines).mapError (CompileError.addLines count) := by
  induction lines generalizing number current with
  | nil => cases current <;> rfl
  | cons first rest ih =>
      rw [strictFrom_cons, strictFrom_cons, Line.step_addLines]
      cases first.step number current with
      | error error => rfl
      | ok next =>
          simp only [Except.map, Except.mapError, Except.bind]
          rw [Nat.add_right_comm, ih (number + 1) next]
          cases strictFrom (number + 1) next rest <;> rfl

theorem compileStrict_append_cons {front css : Text} (h : compileStrict front = .ok css)
    (back : Text) :
    compileStrict (front ++ '\n' :: back) =
      ((compileStrict back).mapError (CompileError.addLines (1 + front.count '\n'))).map
        (css ++ ·) := by
  rw [compileStrict_eq_pieces] at h
  rw [compileStrict_eq_pieces, readPieces_append_cons, strictFrom_append h, length_readPieces,
    Nat.add_comm (front.count '\n'), compileStrict_eq_pieces back, ← strictFrom_addLines]
  rfl

theorem compile_across_lineFeed (front back : Text) :
    compile (front ++ '\n' :: back) = compile front ++ compile back ∧
      ∀ css, compileStrict front = .ok css →
        (∀ more, compileStrict back = .ok more →
          compileStrict (front ++ '\n' :: back) = .ok (css ++ more)) ∧
        ∀ error, compileStrict back = .error error →
          compileStrict (front ++ '\n' :: back) =
            .error (error.addLines (1 + front.count '\n')) := by
  refine ⟨?_, ?_⟩
  · rw [compile_eq_pieces, readPieces_append_cons, cssOfLines_append, ← compile_eq_pieces,
      ← compile_eq_pieces]
  · intro css hfront
    rw [compileStrict_append_cons hfront]
    refine ⟨?_, ?_⟩
    · intro more hback
      rw [hback]
      rfl
    · intro error hback
      rw [hback]
      rfl

/-- A carriage return at the end of the first source becomes part of a line end. -/
theorem exists_compile_across_carriageReturn :
    ∃ front css, front.getLast? = some '\r' ∧ compileStrict front = .ok css ∧
      (∃ back more, compileStrict back = .ok more ∧
        compileStrict (front ++ '\n' :: back) = .ok (css ++ more)) ∧
      ∃ back, compileStrict back = .error (.unclosedBlock 2 "b".toList) ∧
        compileStrict (front ++ '\n' :: back) = .error (.unclosedBlock 5 "b".toList) := by
  have hfront : compileStrict "!a\ncolor red\n@\r".toList =
      .ok "a \x7b color: red; \x7d\n".toList := by
    decide +kernel
  have hclosed : compileStrict "\t!b\r\n@".toList = .ok "b \x7b \x7d\n".toList := by
    decide +kernel
  have hunclosed : compileStrict "\n!b\r\nwidth 1px".toList =
      .error (.unclosedBlock 2 "b".toList) := by
    decide +kernel
  refine ⟨_, _, rfl, hfront, ⟨_, _, hclosed, ?_⟩, ⟨_, hunclosed, ?_⟩⟩
  · exact ((compile_across_lineFeed _ _).2 _ hfront).1 _ hclosed
  · exact ((compile_across_lineFeed _ _).2 _ hfront).2 _ hunclosed

end Style

end Inlay
