import Inlay.Proofs.Text.Trim
import Inlay.Text.Lines

namespace Inlay.Text

theorem exists_splitOn (mark : Char) (text : Text) :
    ∃ first others, splitOn mark text = first :: others := by
  cases text with
  | nil => exact ⟨[], [], rfl⟩
  | cons c rest =>
      rw [splitOn]
      split
      · exact ⟨[], splitOn mark rest, rfl⟩
      · cases splitOn mark rest with
        | nil => exact ⟨[c], [], rfl⟩
        | cons first others => exact ⟨c :: first, others, rfl⟩

theorem splitOn_append_cons (mark : Char) (front back : Text) :
    splitOn mark (front ++ mark :: back) = splitOn mark front ++ splitOn mark back := by
  induction front with
  | nil => simp [splitOn]
  | cons c front ih =>
      rw [List.cons_append, splitOn, splitOn, ih]
      split
      · rfl
      · obtain ⟨first, others, hfront⟩ := exists_splitOn mark front
        rw [hfront]
        rfl

theorem splitOn_of_not_mem {mark : Char} {text : Text} (h : mark ∉ text) :
    splitOn mark text = [text] := by
  induction text with
  | nil => rfl
  | cons c rest ih =>
      simp only [List.mem_cons, not_or] at h
      rw [splitOn, if_neg (Ne.symm h.1), ih h.2]
      rfl

theorem length_splitOn (mark : Char) (text : Text) :
    (splitOn mark text).length = text.count mark + 1 := by
  induction text with
  | nil => rfl
  | cons c rest ih =>
      rw [splitOn]
      split
      · rename_i hc
        rw [List.length_cons, ih, hc, List.count_cons_self]
      · rename_i hc
        obtain ⟨first, others, hrest⟩ := exists_splitOn mark rest
        rw [hrest] at ih ⊢
        rw [List.count_cons_of_ne hc, ← ih]
        rfl

/-- The lines that pieces stand for. -/
inductive LinesOf : List Text → List Text → Prop where
  | done : LinesOf [] []
  | afterLast : LinesOf [[]] []
  | line (line : Text) {blanks : Text} (allBlank : AllBlank blanks) {pieces lines : List Text}
      (rest : LinesOf pieces lines) : LinesOf ((line ++ blanks) :: pieces) (line :: lines)

theorem LinesOf.prepend {pieces lines : List Text} (h : LinesOf pieces lines) (c : Char) :
    LinesOf (prepend c pieces) (prepend c lines) := by
  have hsingle : LinesOf [[c]] [[c]] := .line [c] (List.forall_mem_nil _) .done
  cases h with
  | done => exact hsingle
  | afterLast => exact hsingle
  | line line allBlank rest => exact .line (c :: line) allBlank rest

theorem linesOf_splitOn (text : Text) : LinesOf (splitOn '\n' text) (lines text) := by
  fun_induction lines text with
  | case1 => exact .afterLast
  | case2 rest ih => exact .line [] (List.forall_mem_nil _) ih
  | case3 rest ih => exact .line [] (by decide : AllBlank ['\r']) ih
  | case4 c rest hfeed _ ih =>
      rw [splitOn, if_neg (fun hc => hfeed hc)]
      exact ih.prepend c

theorem mem_of_mem_lines {text line : Text} (h : line ∈ lines text) {c : Char} (hc : c ∈ line) :
    c ∈ text := by
  fun_induction lines text generalizing line with
  | case1 => cases h
  | case2 rest ih =>
      rcases List.mem_cons.mp h with rfl | h
      · cases hc
      · exact List.mem_cons_of_mem _ (ih h hc)
  | case3 rest ih =>
      rcases List.mem_cons.mp h with rfl | h
      · cases hc
      · exact List.mem_cons_of_mem _ (List.mem_cons_of_mem _ (ih h hc))
  | case4 d rest _ _ ih =>
      rcases mem_prepend h hc with rfl | ⟨part, hpart, hc⟩
      · exact List.mem_cons_self
      · exact List.mem_cons_of_mem d (ih hpart hc)

end Inlay.Text
