import Inlay.Proofs.Style.Composition

namespace Inlay.Style

namespace Line

def opens? : Line → Option Bool
  | opening _ => some true
  | closing => some false
  | declaration _ _ => none
  | ignored => none

def declares : Line → Bool
  | declaration _ _ => true
  | _ => false

end Line

/-- Whether a block is open behind lines: the last of them that opens or closes one decides. -/
def insideAfter (inside : Bool) (lines : List Line) : Bool :=
  (lines.filterMap Line.opens?).getLast?.getD inside

theorem insideAfter_cons (inside : Bool) (first : Line) (lines : List Line) :
    insideAfter inside (first :: lines) = insideAfter (first.opens?.getD inside) lines := by
  rw [insideAfter, insideAfter, List.filterMap_cons]
  cases first.opens? with
  | none => rfl
  | some opens =>
      rw [List.getLast?_cons]
      cases (lines.filterMap Line.opens?).getLast? <;> rfl

def DeclaresInside (inside : Bool) (lines : List Line) : Prop :=
  ∀ front line, front ++ [line] <+: lines → line.declares = true → insideAfter inside front = true

theorem declaresInside_nil (inside : Bool) : DeclaresInside inside [] := by
  intro front line hfront
  exact absurd (List.prefix_nil.mp hfront) (by simp)

theorem declaresInside_cons {inside : Bool} {first : Line} {lines : List Line} :
    DeclaresInside inside (first :: lines) ↔
      (first.declares = true → inside = true) ∧
        DeclaresInside (first.opens?.getD inside) lines := by
  constructor
  · intro h
    refine ⟨h [] first ⟨lines, rfl⟩, ?_⟩
    intro front line hfront hline
    rw [← insideAfter_cons]
    exact h (first :: front) line ((List.prefix_cons_inj first).mpr hfront) hline
  · intro h front line hfront hline
    obtain ⟨hfirst, hlines⟩ := h
    cases front with
    | nil =>
        obtain ⟨rfl, -⟩ := List.cons_prefix_cons.mp hfront
        exact hfirst hline
    | cons other front =>
        obtain ⟨rfl, hrest⟩ := List.cons_prefix_cons.mp hfront
        rw [insideAfter_cons]
        exact hlines front line hrest hline

instance DeclaresInside.decidable :
    (inside : Bool) → (lines : List Line) → Decidable (DeclaresInside inside lines)
  | inside, [] => .isTrue (declaresInside_nil inside)
  | inside, first :: lines =>
      have := DeclaresInside.decidable (first.opens?.getD inside) lines
      decidable_of_iff _ declaresInside_cons.symm

namespace Block

def openCss (block : Block) : Text :=
  block.selector ++ " \x7b ".toList ++ block.declarations.flatMap Declaration.toCss

theorem toCss_eq (block : Block) : block.toCss = block.openCss ++ Line.closing.toCss := rfl

theorem openCss_declare (block : Block) (property value : Text) :
    (block.declare property value).openCss =
      block.openCss ++ (Line.declaration property value).toCss := by
  simp [openCss, declare, Declaration.toCss, Line.toCss]

end Block

theorem isSome_of_step {first : Line} {number : Nat} {current next : Option OpenBlock}
    (h : first.step number current = .ok next) :
    next.isSome = first.opens?.getD current.isSome := by
  cases first with
  | opening selector =>
      cases current with
      | none =>
          cases h
          rfl
      | some block => cases h
  | closing =>
      cases current with
      | none => cases h
      | some block =>
          cases h
          rfl
  | declaration property value =>
      cases h
      rfl
  | ignored =>
      cases h
      rfl

/-- A line that the strict compiler lets pass completes some blocks and leaves one to be filled or
none; together they are spelled as what was there before and then the line. -/
theorem exists_blocksFrom_of_step {first : Line} {number : Nat} {current next : Option OpenBlock}
    {filled : Option Block} (hstep : first.step number current = .ok next)
    (hfilled : filled.isSome = current.isSome) (hselector : first ≠ .opening [])
    (hdeclares : first.declares = true → current.isSome = true) :
    ∃ (complete : List Block) (following : Option Block), following.isSome = next.isSome ∧
      (∀ rest, blocksFrom filled (first :: rest) = complete ++ blocksFrom following rest) ∧
      complete.flatMap Block.toCss ++ following.elim [] Block.openCss =
        filled.elim [] Block.openCss ++ first.toCss := by
  cases first with
  | opening selector =>
      cases current with
      | some block => cases hstep
      | none =>
          cases hstep
          cases filled with
          | some block => cases hfilled
          | none =>
              have hne : ¬ selector.isEmpty = true := by
                intro hempty
                rw [List.isEmpty_iff.mp hempty] at hselector
                exact hselector rfl
              refine ⟨[], some ⟨selector, []⟩, rfl, ?_, ?_⟩
              · intro rest
                rw [blocksFrom, startBlock, if_neg hne]
                rfl
              · exact List.append_nil _
  | closing =>
      cases current with
      | none => cases hstep
      | some block =>
          cases hstep
          obtain ⟨filling, rfl⟩ := Option.isSome_iff_exists.mp hfilled
          refine ⟨[filling], none, rfl, fun rest => rfl, ?_⟩
          simp [Block.toCss_eq]
  | declaration property value =>
      cases hstep
      obtain ⟨filling, rfl⟩ := Option.isSome_iff_exists.mp (hfilled.trans (hdeclares rfl))
      refine ⟨[], some (filling.declare property value), hfilled, fun rest => rfl, ?_⟩
      simp [Block.openCss_declare]
  | ignored =>
      cases hstep
      exact ⟨[], filled, hfilled, fun rest => rfl, (List.append_nil _).symm⟩

theorem flatMap_toCss_blocksFrom {lines : List Line} {number : Nat} {current : Option OpenBlock}
    {filled : Option Block} {css : Text} (haccepted : strictFrom number current lines = .ok css)
    (hfilled : filled.isSome = current.isSome) (hselectors : .opening [] ∉ lines)
    (hdeclares : DeclaresInside current.isSome lines) :
    (blocksFrom filled lines).flatMap Block.toCss =
      filled.elim [] Block.openCss ++ cssOfLines lines := by
  induction lines generalizing number current filled css with
  | nil =>
      cases current with
      | some block => cases haccepted
      | none =>
          cases filled with
          | some block => cases hfilled
          | none => rfl
  | cons first rest ih =>
      obtain ⟨next, tail, hstep, htail, -⟩ := strictFrom_cons_eq_ok_iff.mp haccepted
      obtain ⟨hfirst, hinside⟩ := declaresInside_cons.mp hdeclares
      rw [← isSome_of_step hstep] at hinside
      have hselector : first ≠ .opening [] := by
        intro hempty
        rw [hempty] at hselectors
        exact hselectors List.mem_cons_self
      have hrest : .opening [] ∉ rest := fun hmem => hselectors (List.mem_cons_of_mem first hmem)
      obtain ⟨complete, following, hfollowing, hblocks, hcss⟩ :=
        exists_blocksFrom_of_step hstep hfilled hselector hfirst
      rw [hblocks, List.flatMap_append, ih htail hfollowing hrest hinside, ← List.append_assoc,
        hcss, List.append_assoc]
      rfl

theorem flatMap_toCss_blocks {source css : Text} (haccepted : compileStrict source = .ok css)
    (hselectors : .opening [] ∉ readLines source)
    (hdeclares : DeclaresInside false (readLines source)) :
    (blocks source).flatMap Block.toCss = compile source :=
  flatMap_toCss_blocksFrom haccepted rfl hselectors hdeclares

/-- Two blocks among lines that say nothing, with both line ends and blanks of several kinds. -/
theorem exists_flatMap_toCss_among_ignored :
    ∃ source css, compileStrict source = .ok css ∧ .opening [] ∉ readLines source ∧
      DeclaresInside false (readLines source) ∧ .ignored ∈ readLines source ∧
      (blocks source).length = 2 ∧ (blocks source).flatMap Block.toCss = compile source := by
  have haccepted : compileStrict
      "junk\n\t! a  b\r\n\r\nbold\n color   red\tdark \r\n@ x\n @ \n\n!b\n@\r".toList =
        .ok "a  b \x7b color: red dark; @: x; \x7d\nb \x7b \x7d\n".toList := by
    decide +kernel
  refine ⟨_, _, haccepted, ?_, ?_, ?_, ?_, ?_⟩
  · decide +kernel
  · decide +kernel
  · decide +kernel
  · decide +kernel
  · exact flatMap_toCss_blocks haccepted (by decide +kernel) (by decide +kernel)

end Inlay.Style
