import Inlay.Text

namespace Inlay.Text

/-! Cutting texts by size. Two ways to cut one text are nested, and the one that takes fewer bytes
is the inner one. -/

theorem eq_nil_of_utf8Size_eq_zero {text : Text} (h : utf8Size text = 0) : text = [] := by
  have hlength := length_le_utf8Size text
  exact List.length_eq_zero_iff.mp (by omega)

theorem exists_middle_of_append_eq {front back front' back' : Text}
    (h : front ++ back = front' ++ back') (hsize : utf8Size front ≤ utf8Size front') :
    ∃ middle, front' = front ++ middle ∧ back = middle ++ back' := by
  rcases List.append_eq_append_iff.mp h with ⟨middle, hfront, hback⟩ | ⟨middle, hfront, hback⟩
  · exact ⟨middle, hfront, hback⟩
  · have hempty : middle = [] := by
      apply eq_nil_of_utf8Size_eq_zero
      rw [hfront, utf8Size_append] at hsize
      omega
    subst hempty
    exact ⟨[], by simpa using hfront.symm, by simpa using hback.symm⟩

theorem append_inj_of_utf8Size {front back front' back' : Text}
    (h : front ++ back = front' ++ back') (hsize : utf8Size front = utf8Size front') :
    front = front' ∧ back = back' := by
  obtain ⟨middle, hfront, hback⟩ := exists_middle_of_append_eq h (Nat.le_of_eq hsize)
  have hempty : middle = [] := by
    apply eq_nil_of_utf8Size_eq_zero
    rw [hfront, utf8Size_append] at hsize
    omega
  subst hempty
  exact ⟨by simpa using hfront.symm, hback⟩

/-- A stretch without a mark does not reach beyond the place where that mark stands. -/
theorem exists_eq_append_of_not_mem {mark : Char} {front back stretch rest : Text}
    (hback : back = [] ∨ back.head? = some mark) (hstretch : mark ∉ stretch)
    (h : front ++ back = stretch ++ rest) : ∃ more, front = stretch ++ more := by
  rcases List.append_eq_append_iff.mp h with ⟨middle, hmiddle, hrest⟩ | ⟨more, hfront, -⟩
  · cases middle with
    | nil => exact ⟨[], by simpa using hmiddle.symm⟩
    | cons c middle =>
        rcases hback with rfl | hback
        · cases hrest
        · rw [hrest] at hback
          cases hback
          exact absurd (by simp [hmiddle]) hstretch
  · exact ⟨more, hfront⟩

theorem slice?_append (front inside back : Text) :
    slice? (front ++ inside ++ back) (utf8Size front) (utf8Size front + utf8Size inside) =
      some inside := by
  have htail : splitAtByte? (utf8Size front) (front ++ inside ++ back) =
      some (front, inside ++ back) := by
    rw [List.append_assoc, splitAtByte?_append]
  have hsize : utf8Size front + utf8Size inside - utf8Size front = utf8Size inside := by omega
  simp only [slice?, htail, hsize, splitAtByte?_append, Option.bind_eq_bind, Option.bind_some]
  rfl

theorem eq_append_of_slice? {text inside : Text} {start stop : Nat}
    (h : slice? text start stop = some inside) :
    ∃ front back, text = front ++ inside ++ back ∧ utf8Size front = start ∧
      utf8Size inside = stop - start := by
  obtain ⟨⟨front, tail⟩, hfront, htail⟩ := Option.bind_eq_some_iff.mp h
  obtain ⟨⟨part, back⟩, hpart, hinside⟩ := Option.bind_eq_some_iff.mp htail
  cases hinside
  obtain ⟨htext, hstart⟩ := eq_append_of_splitAtByte? hfront
  obtain ⟨hrest, hsize⟩ := eq_append_of_splitAtByte? hpart
  exact ⟨front, back, by rw [htext, hrest, List.append_assoc], hstart, hsize⟩

def IsBoundary (text : Text) (offset : Nat) : Prop :=
  ∃ front back, text = front ++ back ∧ utf8Size front = offset

theorem exists_part_of_isBoundary {text : Text} {start stop : Nat} (hstart : IsBoundary text start)
    (hstop : IsBoundary text stop) (hle : start ≤ stop) :
    ∃ front inside back, text = front ++ inside ++ back ∧ start = utf8Size front ∧
      stop = utf8Size front + utf8Size inside := by
  obtain ⟨front, tail, rfl, rfl⟩ := hstart
  obtain ⟨long, back, htext, rfl⟩ := hstop
  obtain ⟨inside, rfl, -⟩ := exists_middle_of_append_eq htext hle
  exact ⟨front, inside, back, htext, rfl, utf8Size_append front inside⟩

def part (text : Text) (start stop : Nat) : Text :=
  (slice? text start stop).getD []

theorem part_append (front inside back : Text) :
    part (front ++ inside ++ back) (utf8Size front) (utf8Size front + utf8Size inside) =
      inside := by
  rw [part, slice?_append]
  rfl

theorem utf8Size_part_le (text : Text) (start stop : Nat) :
    utf8Size (part text start stop) ≤ stop - start := by
  unfold part
  cases hslice : slice? text start stop with
  | none => exact Nat.zero_le _
  | some inside =>
      obtain ⟨_, _, _, _, hsize⟩ := eq_append_of_slice? hslice
      exact Nat.le_of_eq hsize

theorem mem_prepend {c d : Char} {parts : List Text} {text : Text} (h : text ∈ prepend d parts)
    (hc : c ∈ text) : c = d ∨ ∃ part ∈ parts, c ∈ part := by
  cases parts with
  | nil =>
      rw [prepend_nil, List.mem_singleton] at h
      subst h
      exact Or.inl (List.mem_singleton.mp hc)
  | cons first others =>
      rw [prepend_cons, List.mem_cons] at h
      rcases h with rfl | h
      · apply (List.mem_cons.mp hc).imp_right
        exact fun hfirst => ⟨first, List.mem_cons_self, hfirst⟩
      · exact Or.inr ⟨text, List.mem_cons_of_mem first h, hc⟩

theorem splitFirst?_append {mark : Char} {front : Text} (h : mark ∉ front) (back : Text) :
    splitFirst? mark (front ++ mark :: back) = some (front, back) := by
  induction front with
  | nil => simp [splitFirst?]
  | cons c front ih =>
      simp only [List.mem_cons, not_or] at h
      rw [List.cons_append, splitFirst?, if_neg (Ne.symm h.1), ih h.2]
      rfl

theorem splitFirst?_eq_none_iff {mark : Char} {text : Text} :
    splitFirst? mark text = none ↔ mark ∉ text := by
  constructor
  · intro h hmem
    obtain ⟨front, back, rfl, hfront⟩ := List.eq_append_cons_of_mem hmem
    rw [splitFirst?_append hfront] at h
    cases h
  · intro h
    cases hsplit : splitFirst? mark text with
    | none => rfl
    | some parts =>
        have htext := (eq_append_of_splitFirst? hsplit).1
        exact absurd (by simp [htext]) h

section

variable {kind : Char → Bool} {front : Text} {c : Char}

theorem takeWhile_append_cons (hfront : ∀ d ∈ front, kind d = true) (hc : kind c = false)
    (back : Text) : (front ++ c :: back).takeWhile kind = front := by
  rw [List.takeWhile_append_of_pos hfront, List.takeWhile_cons_of_neg (by simp [hc]),
    List.append_nil]

theorem dropWhile_append_cons (hfront : ∀ d ∈ front, kind d = true) (hc : kind c = false)
    (back : Text) : (front ++ c :: back).dropWhile kind = c :: back := by
  rw [List.dropWhile_append_of_pos hfront, List.dropWhile_cons_of_neg (by simp [hc])]

end

end Inlay.Text
