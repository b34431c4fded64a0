import Inlay.Text

namespace Inlay.Markup

variable {α : Type} [DecidableEq α]

/-- The position of the closing mark of the level at which a sequence begins, while `depth`
further levels are open. The sequence begins at `position`, and each item moves the position on by
its weight. -/
@[specialize] def closingFrom? (weight : α → Nat) (opening closing : α) (depth position : Nat) :
    List α → Option Nat
  | [] => none
  | x :: rest =>
      if x = opening then
        closingFrom? weight opening closing (depth + 1) (position + weight x) rest
      else if x = closing then
        match depth with
        | 0 => some position
        | depth + 1 => closingFrom? weight opening closing depth (position + weight x) rest
      else
        closingFrom? weight opening closing depth (position + weight x) rest

theorem closingFrom?_add (weight : α → Nat) (opening closing : α)
    (depth position distance : Nat) (items : List α) :
    closingFrom? weight opening closing depth (position + distance) items =
      (closingFrom? weight opening closing depth position items).map (· + distance) := by
  induction items generalizing depth position with
  | nil => rfl
  | cons x rest ih =>
      have hmove : position + distance + weight x = position + weight x + distance := by omega
      simp only [closingFrom?, hmove]
      split
      · rw [ih]
      · split
        · cases depth with
          | zero => rfl
          | succ depth => simp only [ih]
        · rw [ih]

/-- The byte offset of the `}` that belongs to a `{` just before a text, which begins at a given
offset. -/
def closingBrace? (offset : Nat) (text : Text) : Option Nat :=
  closingFrom? Char.utf8Size '{' '}' 0 offset text

end Inlay.Markup
