import Inlay.Style.Variables
import Inlay.Proofs.Text.Table

namespace Inlay.Style.Variables

/-- Whether a text is the rule for the root element that gives each name its last value: the bare
names in the order of their code points, the values without the blanks around them. -/
def IsRootRule (pairs : List (Text × Text)) (css : Text) : Prop :=
  ∃ entries : List (Text × Text),
    entries.Pairwise (fun first second => first.1 < second.1) ∧
    (∀ name value, (name, value) ∈ entries ↔
      (pairs.map fun pair => (bareName pair.1, pair.2)).reverse.lookup name = some value) ∧
    css = ":root \x7b ".toList ++
      entries.flatMap (fun entry =>
        "--".toList ++ entry.1 ++ ": ".toList ++ Text.trim entry.2 ++ "; ".toList) ++
      "\x7d\n".toList

theorem values_setMany (store : Variables) (pairs : List (Text × Text)) :
    (store.setMany pairs).values = (pairs.map fun pair => (bareName pair.1, pair.2)).foldl
      (fun acc pair => acc.insert pair.1 pair.2) store.values := by
  induction pairs generalizing store with
  | nil => rfl
  | cons pair pairs ih => exact ih (store.set pair.1 pair.2)

theorem isEmpty_setMany (store : Variables) (pairs : List (Text × Text)) :
    (store.setMany pairs).isEmpty = (store.isEmpty && pairs.isEmpty) := by
  rw [isEmpty, values_setMany, Text.isEmpty_foldl_insert, List.isEmpty_map, isEmpty]

theorem isRootRule_toCss {pairs : List (Text × Text)} (h : pairs ≠ []) :
    IsRootRule pairs (empty.setMany pairs).toCss := by
  have hempty : (empty.setMany pairs).isEmpty = false := by
    rw [isEmpty_setMany, List.isEmpty_eq_false_iff.mpr h, Bool.and_false]
  refine ⟨(empty.setMany pairs).values.toList, Text.pairwise_toList _, ?_, ?_⟩
  · intro name value
    rw [Std.TreeMap.mem_toList_iff_getElem?_eq_some, values_setMany, Text.getElem?_foldl_insert]
    simp [empty]
  · rw [toCss, hempty]
    rfl

end Inlay.Style.Variables
