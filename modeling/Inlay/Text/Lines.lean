import Inlay.Text

namespace Inlay.Text

def lines : Text → List Text
  | [] => []
  | '\n' :: rest => [] :: lines rest
  | '\r' :: '\n' :: rest => [] :: lines rest
  | c :: rest => prepend c (lines rest)

theorem lineFeed_not_mem_lines {text line : Text} (h : line ∈ lines text) : '\n' ∉ line := by
  fun_induction lines text generalizing line with
  | case1 => cases h
  | case2 rest ih =>
      rcases List.mem_cons.mp h with rfl | h
      · simp
      · exact ih h
  | case3 rest ih =>
      rcases List.mem_cons.mp h with rfl | h
      · simp
      · exact ih h
  | case4 c rest hfeed _ ih =>
      have hc : ¬ '\n' = c := fun heq => hfeed heq.symm
      cases hlines : lines rest with
      | nil =>
          rw [hlines, prepend_nil, List.mem_singleton] at h
          simp [h, hc]
      | cons first others =>
          rw [hlines, prepend_cons, List.mem_cons] at h
          rcases h with rfl | h
          · have hmem : first ∈ lines rest := by simp [hlines]
            simp [hc, ih hmem]
          · exact ih (by simp [hlines, h])

end Inlay.Text
