import Inlay.Proofs.Text.Words
import Inlay.Style.Line

namespace Inlay.Style.Line

inductive Reads (raw : Text) : Line → Prop where
  | opening {selector : Text} (trim_eq : Text.trim raw = '!' :: selector) :
      Reads raw (.opening (Text.trim selector))
  | closing (trim_eq : Text.trim raw = ['@']) : Reads raw .closing
  | declaration {property first : Text} {others : List Text}
      (begins : (Text.trim raw).head? ≠ some '!') (space : ' ' ∈ Text.trim raw)
      (words_eq : Text.words (Text.trim raw) = property :: first :: others) :
      Reads raw (.declaration property (Text.unwords (first :: others)))
  | ignored (begins : (Text.trim raw).head? ≠ some '!') (notClosing : Text.trim raw ≠ ['@'])
      (noSpace : ' ' ∉ Text.trim raw) : Reads raw .ignored

theorem classify_of_opening {raw selector : Text} (trim_eq : Text.trim raw = '!' :: selector) :
    classify raw = .opening (Text.trim selector) := by
  rw [classify, trim_eq]
  rfl

theorem classify_of_closing {raw : Text} (trim_eq : Text.trim raw = ['@']) :
    classify raw = .closing := by
  rw [classify, trim_eq]
  rfl

theorem classify_of_other {raw : Text} (begins : (Text.trim raw).head? ≠ some '!')
    (notClosing : Text.trim raw ≠ ['@']) :
    classify raw =
      if ' ' ∈ Text.trim raw then
        match Text.words (Text.trim raw) with
        | property :: value => declaration property (Text.unwords value)
        | [] => ignored
      else
        ignored := by
  rw [classify]
  split
  · rename_i htrim
    rw [htrim] at begins
    exact absurd rfl begins
  · rename_i htrim
    exact absurd htrim notClosing
  · rfl

theorem reads_classify (raw : Text) : Reads raw (classify raw) := by
  by_cases begins : (Text.trim raw).head? = some '!'
  · obtain ⟨selector, trim_eq⟩ := List.head?_eq_some_iff.mp begins
    rw [classify_of_opening trim_eq]
    exact .opening trim_eq
  · by_cases trim_eq : Text.trim raw = ['@']
    · rw [classify_of_closing trim_eq]
      exact .closing trim_eq
    · rw [classify_of_other begins trim_eq]
      split
      · rename_i space
        obtain ⟨property, first, others, words_eq⟩ :=
          Text.exists_words_of_space (Text.trim_trim raw) space
        rw [words_eq]
        exact .declaration begins space words_eq
      · rename_i noSpace
        exact .ignored begins trim_eq noSpace

theorem Reads.classify_eq {raw : Text} {line : Line} (h : Reads raw line) :
    classify raw = line := by
  cases h with
  | opening trim_eq => exact classify_of_opening trim_eq
  | closing trim_eq => exact classify_of_closing trim_eq
  | declaration begins space words_eq =>
      have notClosing : Text.trim raw ≠ ['@'] := by
        intro trim_eq
        rw [trim_eq] at space
        exact absurd space (by decide)
      rw [classify_of_other begins notClosing, if_pos space, words_eq]
  | ignored begins notClosing noSpace =>
      rw [classify_of_other begins notClosing, if_neg noSpace]

theorem mem_of_mem_selector {raw selector : Text} (trim_eq : Text.trim raw = '!' :: selector)
    {c : Char} (hc : c ∈ Text.trim selector) : c ∈ raw := by
  apply Text.mem_of_mem_trim
  rw [trim_eq]
  exact List.mem_cons_of_mem '!' (Text.mem_of_mem_trim hc)

theorem classify_append_blanks {blanks : Text} (h : Text.AllBlank blanks) (raw : Text) :
    classify (raw ++ blanks) = classify raw := by
  rw [classify, Text.trim_append_blanks h, classify]

end Inlay.Style.Line
