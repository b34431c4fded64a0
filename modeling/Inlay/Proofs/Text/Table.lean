import Std.Data.TreeMap
import Inlay.Text

namespace Inlay.Text

theorem compare_eq_lt_iff {first second : Text} : compare first second = .lt ↔ first < second := by
  induction first generalizing second with
  | nil =>
      cases second with
      | nil => decide
      | cons d rest => exact ⟨fun _ => List.nil_lt_cons d rest, fun _ => rfl⟩
  | cons c first ih =>
      cases second with
      | nil => exact ⟨nofun, nofun⟩
      | cons d second =>
          have hchar : compare c d = .lt ↔ c < d := compareOfLessAndEq_eq_lt
          simp only [List.compare_eq_compareLex] at ih
          simp only [List.compare_eq_compareLex, List.compareLex_cons_cons, Ordering.then_eq_lt, ih,
            hchar, Std.compare_eq_iff_eq, List.cons_lt_cons_iff]

theorem getElem?_foldl_insert (table : Std.TreeMap Text Text) (pairs : List (Text × Text))
    (name : Text) :
    (pairs.foldl (fun acc pair => acc.insert pair.1 pair.2) table)[name]? =
      (pairs.reverse.lookup name).or table[name]? := by
  induction pairs generalizing table with
  | nil => rfl
  | cons pair pairs ih =>
      have hlast : ([pair].lookup name).or table[name]? =
          if compare pair.1 name = .eq then some pair.2 else table[name]? := by
        rw [List.lookup_cons]
        by_cases hname : name = pair.1
        · simp [hname]
        · simp [beq_false_of_ne hname, Ne.symm hname]
      rw [List.foldl_cons, ih, Std.TreeMap.getElem?_insert, List.reverse_cons, List.lookup_append,
        Option.or_assoc, hlast]

theorem isEmpty_foldl_insert (table : Std.TreeMap Text Text) (pairs : List (Text × Text)) :
    (pairs.foldl (fun acc pair => acc.insert pair.1 pair.2) table).isEmpty =
      (table.isEmpty && pairs.isEmpty) := by
  induction pairs generalizing table with
  | nil => simp
  | cons pair pairs ih =>
      rw [List.foldl_cons, ih, Std.TreeMap.isEmpty_insert]
      simp

theorem pairwise_toList (table : Std.TreeMap Text Text) :
    table.toList.Pairwise (fun first second => first.1 < second.1) :=
  Std.TreeMap.ordered_keys_toList.imp compare_eq_lt_iff.mp

end Inlay.Text
