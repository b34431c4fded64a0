import Inlay.Template
import Inlay.Proofs.Text.Table

namespace Inlay.Template

variable (template : Template) (pairs : List (Text × Text))

@[simp] theorem marker_setMany : (template.setMany pairs).marker = template.marker := by
  induction pairs generalizing template with
  | nil => rfl
  | cons pair pairs ih => exact ih (template.set pair.1 pair.2)

theorem values_setMany : (template.setMany pairs).values =
    pairs.foldl (fun acc pair => acc.insert pair.1 pair.2) template.values := by
  induction pairs generalizing template with
  | nil => rfl
  | cons pair pairs ih => exact ih (template.set pair.1 pair.2)

theorem get?_setMany (key : Text) :
    (template.setMany pairs).get? key = (pairs.reverse.lookup key).or (template.get? key) := by
  rw [get?, values_setMany, Text.getElem?_foldl_insert, get?]

theorem get?_of_isEmpty {template : Template} (h : template.isEmpty = true) (key : Text) :
    template.get? key = none := by
  rw [get?]
  exact Std.TreeMap.getElem?_of_isEmpty h

theorem fill_of_get?_eq_none {template : Template} (h : ∀ key, template.get? key = none)
    (forest : Forest) : template.fill forest = forest := by
  have hvalue : ∀ attributes, template.valueFor? attributes = none := by
    intro attributes
    rw [valueFor?, Option.bind_eq_none_iff]
    exact fun key _ => h key
  induction forest with
  | nil => rfl
  | text content rest ih => rw [fill, ih]
  | element tag attributes children rest ihChildren ih =>
      simp only [fill, hvalue, ihChildren, ih]

/-! Filling twice. A slot that has a value for the second time loses what the first time put there;
one that has none is gone through, and the text that the first time put there has no slots in it. -/

theorem fill_fill {first second both : Template}
    (h : ∀ attributes, both.valueFor? attributes =
      (second.valueFor? attributes).or (first.valueFor? attributes)) (forest : Forest) :
    second.fill (first.fill forest) = both.fill forest := by
  induction forest with
  | nil => rfl
  | text content rest ih => simp only [fill, ih]
  | element tag attributes children rest ihChildren ih =>
      have hboth := h attributes
      cases hfirst : first.valueFor? attributes with
      | none =>
          cases hsecond : second.valueFor? attributes with
          | none =>
              rw [hfirst, hsecond, Option.none_or] at hboth
              simp only [fill, hfirst, hsecond, hboth, ihChildren, ih]
          | some value =>
              rw [hsecond, Option.some_or] at hboth
              simp only [fill, hfirst, hsecond, hboth, ih]
      | some value =>
          cases hsecond : second.valueFor? attributes with
          | none =>
              rw [hfirst, hsecond, Option.none_or] at hboth
              simp only [fill, hfirst, hsecond, hboth, ih]
          | some later =>
              rw [hsecond, Option.some_or] at hboth
              simp only [fill, hfirst, hsecond, hboth, ih]

theorem slotCount_fill (template : Template) (forest : Forest) :
    template.slotCount (template.fill forest) = template.slotCount forest := by
  induction forest with
  | nil => rfl
  | text content rest ih => simp only [fill, slotCount, ih]
  | element tag attributes children rest ihChildren ih =>
      cases hvalue : template.valueFor? attributes with
      | none => simp only [fill, slotCount, hvalue, ihChildren, ih]
      | some value => simp only [fill, slotCount, hvalue, ih]

theorem valueFor?_of_get? {marker : Text} {first second both : Std.TreeMap Text Text}
    (h : ∀ key, (mk marker both).get? key =
      ((mk marker second).get? key).or ((mk marker first).get? key)) (attributes : Attributes) :
    (mk marker both).valueFor? attributes =
      ((mk marker second).valueFor? attributes).or ((mk marker first).valueFor? attributes) := by
  simp only [valueFor?]
  cases attributes.get? marker with
  | none => rfl
  | some key => exact h key

theorem get?_union (marker : Text) (first second : Std.TreeMap Text Text) (key : Text) :
    (mk marker (first ∪ second)).get? key =
      ((mk marker second).get? key).or ((mk marker first).get? key) :=
  Std.TreeMap.getElem?_union

/-- Filling with some values and then with others comes to filling once with both, where the later
values have precedence. So filling again with the same values changes nothing and fills as many
slots, and the order does not matter for values of different keys. -/
theorem fill_fill_union (marker : Text) (first second : Std.TreeMap Text Text) :
    (∀ key, (mk marker (first ∪ second)).get? key =
      ((mk marker second).get? key).or ((mk marker first).get? key)) ∧
    (∀ forest, (mk marker second).fill ((mk marker first).fill forest) =
      (mk marker (first ∪ second)).fill forest) ∧
    (∀ forest, (mk marker first).fill ((mk marker first).fill forest) =
      (mk marker first).fill forest) ∧
    ((∀ key, key ∈ first → key ∉ second) → ∀ forest,
      (mk marker second).fill ((mk marker first).fill forest) =
        (mk marker first).fill ((mk marker second).fill forest)) ∧
    ∀ forest, (mk marker first).slotCount ((mk marker first).fill forest) =
      (mk marker first).slotCount forest := by
  have hunion (forest : Forest) : (mk marker second).fill ((mk marker first).fill forest) =
      (mk marker (first ∪ second)).fill forest :=
    fill_fill (valueFor?_of_get? (get?_union marker first second)) forest
  refine ⟨get?_union marker first second, hunion, ?_, ?_, slotCount_fill _⟩
  · intro forest
    exact fill_fill (fun attributes => Option.or_self.symm) forest
  · intro hdisjoint forest
    have hother (key : Text) : (mk marker (first ∪ second)).get? key =
        ((mk marker first).get? key).or ((mk marker second).get? key) := by
      rw [get?_union]
      by_cases hkey : key ∈ first
      · have hnone : (mk marker second).get? key = none :=
          Std.TreeMap.getElem?_eq_none (hdisjoint key hkey)
        rw [hnone, Option.none_or, Option.or_none]
      · have hnone : (mk marker first).get? key = none := Std.TreeMap.getElem?_eq_none hkey
        rw [hnone, Option.none_or, Option.or_none]
    rw [hunion, fill_fill (valueFor?_of_get? hother)]

theorem exists_fill_fill_of_nested_slots :
    ∃ (first second : Std.TreeMap Text Text) (forest : Forest),
      (∀ key, key ∈ first → key ∉ second) ∧
      (mk ['m'] first).fill forest ≠ forest ∧ (mk ['m'] second).fill forest ≠ forest ∧
      (mk ['m'] second).fill ((mk ['m'] first).fill forest) =
        (mk ['m'] first).fill ((mk ['m'] second).fill forest) := by
  let first : Std.TreeMap Text Text := Std.TreeMap.empty.insert ['a'] ['1']
  let second : Std.TreeMap Text Text := Std.TreeMap.empty.insert ['b'] ['2']
  let inner : Forest := .element ['q'] ⟨[(['m'], ['b'])]⟩ (.text ['x'] .nil) .nil
  let forest : Forest := .element ['p'] ⟨[(['m'], ['a'])]⟩ inner inner
  have hdisjoint : ∀ key, key ∈ first → key ∉ second := by
    intro key hfirst hsecond
    have hone : ['a'] = key := by simpa [first] using hfirst
    have htwo : ['b'] = key := by simpa [second] using hsecond
    cases hone.trans htwo.symm
  refine ⟨first, second, forest, hdisjoint, by decide +kernel, by decide +kernel, ?_⟩
  exact (fill_fill_union ['m'] first second).2.2.2.1 hdisjoint forest

end Inlay.Template
