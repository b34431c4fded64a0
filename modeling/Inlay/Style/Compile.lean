import Inlay.Dialect
import Inlay.Style.Line
import Inlay.Text.Lines

namespace Inlay.Style

def readLines (source : Text) : List Line :=
  (Text.lines source).map Line.classify

def cssOfLines (lines : List Line) : Text :=
  lines.flatMap Line.toCss

def compile (source : Text) : Text :=
  cssOfLines (readLines source)

/-- A block that has been opened and not yet closed: the line of its `!` and its selector. -/
structure OpenBlock where
  line : Nat
  selector : Text
  deriving DecidableEq, Repr

def OpenBlock.error (block : OpenBlock) : CompileError :=
  .unclosedBlock block.line block.selector

/-- Compile the lines from number `line` on, inside the block `current` if there is one. -/
def strictFrom (line : Nat) (current : Option OpenBlock) :
    List Line → Except CompileError Text
  | [] =>
      match current with
      | some block => .error block.error
      | none => .ok []
  | .opening selector :: rest =>
      match current with
      | some block => .error block.error
      | none =>
          (strictFrom (line + 1) (some ⟨line, selector⟩) rest).map
            ((Line.opening selector).toCss ++ ·)
  | .closing :: rest =>
      match current with
      | some _ => (strictFrom (line + 1) none rest).map (Line.closing.toCss ++ ·)
      | none => .error (.strayBlockClose line)
  | .declaration property value :: rest =>
      (strictFrom (line + 1) current rest).map ((Line.declaration property value).toCss ++ ·)
  | .ignored :: rest => strictFrom (line + 1) current rest

def compileStrict (source : Text) : Except CompileError Text :=
  strictFrom 1 none (readLines source)

theorem cssOfLines_append (first second : List Line) :
    cssOfLines (first ++ second) = cssOfLines first ++ cssOfLines second := by
  simp [cssOfLines]

theorem eq_cssOfLines_of_strictFrom {lines : List Line} {line : Nat}
    {current : Option OpenBlock} {css : Text} (h : strictFrom line current lines = .ok css) :
    css = cssOfLines lines := by
  induction lines generalizing line current css with
  | nil =>
      cases current with
      | some block => simp [strictFrom] at h
      | none =>
          cases h
          rfl
  | cons first rest ih =>
      cases first with
      | opening selector =>
          cases current with
          | some block => simp [strictFrom] at h
          | none =>
              simp only [strictFrom] at h
              cases hrest : strictFrom (line + 1) (some ⟨line, selector⟩) rest with
              | error error => simp [hrest, Except.map] at h
              | ok tail =>
                  rw [hrest] at h
                  cases h
                  simp [cssOfLines, ih hrest]
      | closing =>
          cases current with
          | none => simp [strictFrom] at h
          | some block =>
              simp only [strictFrom] at h
              cases hrest : strictFrom (line + 1) none rest with
              | error error => simp [hrest, Except.map] at h
              | ok tail =>
                  rw [hrest] at h
                  cases h
                  simp [cssOfLines, ih hrest]
      | declaration property value =>
          simp only [strictFrom] at h
          cases hrest : strictFrom (line + 1) current rest with
          | error error => simp [hrest, Except.map] at h
          | ok tail =>
              rw [hrest] at h
              cases h
              simp [cssOfLines, ih hrest]
      | ignored =>
          rw [ih h]
          simp [cssOfLines, Line.toCss]

end Inlay.Style
