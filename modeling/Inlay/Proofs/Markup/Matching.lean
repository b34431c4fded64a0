import Inlay.Proofs.Markup.Balance
import Mathlib.Order.Bounds.Basic

namespace Inlay.Markup

section

variable {α : Type} [DecidableEq α] {opening closing : α} {depth position found : Nat}
  {items : List α}

theorem closingFrom?_cons (hne : opening ≠ closing) (x : α) (rest : List α) :
    closingFrom? (fun _ => 1) opening closing depth position (x :: rest) =
      if depth + [x].count opening < [x].count closing then some position
      else closingFrom? (fun _ => 1) opening closing
        (depth + [x].count opening - [x].count closing) (position + 1) rest := by
  simp only [closingFrom?]
  by_cases hopening : x = opening
  · subst hopening
    simp [hne]
  · by_cases hclosing : x = closing
    · subst hclosing
      cases depth with
      | zero => simp [hopening]
      | succ depth => simp [hopening]
    · simp [hopening, hclosing]

theorem count_take_succ_cons (mark x : α) (rest : List α) (size : Nat) :
    ((x :: rest).take (size + 1)).count mark = [x].count mark + (rest.take size).count mark := by
  rw [List.take_succ_cons, ← List.singleton_append, List.count_append]

/-- While the search goes on, the closing marks that it has read do not exceed the open levels, and
it ends where they do. -/
theorem exists_size_of_closingFrom? (hne : opening ≠ closing)
    (h : closingFrom? (fun _ => 1) opening closing depth position items = some found) :
    ∃ size, found = position + size ∧ size < items.length ∧
      (items.take (size + 1)).count closing = depth + (items.take (size + 1)).count opening + 1 ∧
      ∀ fewer, fewer ≤ size →
        (items.take fewer).count closing ≤ depth + (items.take fewer).count opening := by
  induction items generalizing depth position with
  | nil => cases h
  | cons x rest ih =>
      rw [closingFrom?_cons hne] at h
      split at h
      · rename_i hends
        cases h
        have hone : [x].count closing ≤ 1 := List.count_le_length
        refine ⟨0, rfl, Nat.zero_lt_succ _, ?_, ?_⟩
        · rw [count_take_succ_cons, count_take_succ_cons]
          simp only [List.take_zero, List.count_nil]
          omega
        · intro fewer hfewer
          rw [Nat.le_zero.mp hfewer]
          simp
      · rename_i hgoes
        obtain ⟨size, hfound, hsize, hleaves, hbefore⟩ := ih h
        refine ⟨size + 1, by omega, by simpa using hsize, ?_, ?_⟩
        · rw [count_take_succ_cons, count_take_succ_cons]
          omega
        · intro fewer hfewer
          cases fewer with
          | zero => simp
          | succ fewer =>
              have hrest := hbefore fewer (Nat.le_of_succ_le_succ hfewer)
              rw [count_take_succ_cons, count_take_succ_cons]
              omega

theorem count_le_of_closingFrom?_eq_none (hne : opening ≠ closing)
    (h : closingFrom? (fun _ => 1) opening closing depth position items = none) (size : Nat) :
    (items.take size).count closing ≤ depth + (items.take size).count opening := by
  induction items generalizing depth position size with
  | nil => simp
  | cons x rest ih =>
      rw [closingFrom?_cons hne] at h
      split at h
      · cases h
      · rename_i hgoes
        cases size with
        | zero => simp
        | succ size =>
            have hrest := ih h size
            rw [count_take_succ_cons, count_take_succ_cons]
            omega

end

def bytesBetween (source : Text) (start stop : Nat) : List UInt8 :=
  ((Text.toBytes source).take stop).drop start

def openings (source : Text) (start stop : Nat) : Nat :=
  (bytesBetween source start stop).count 0x7B

def closings (source : Text) (start stop : Nat) : Nat :=
  (bytesBetween source start stop).count 0x7D

/-- The offsets before `stop` at which one `}` more than `{` has been read since `start`, the byte
at the offset included. -/
def leavings (source : Text) (start stop : Nat) : Set Nat :=
  { offset | start ≤ offset ∧ offset < stop ∧
    closings source start (offset + 1) = openings source start (offset + 1) + 1 }

section

variable {source : Text} {start stop : Nat}

theorem take_bytesBetween {middle : Nat} (hstart : start ≤ middle) (hstop : middle ≤ stop) :
    (bytesBetween source start stop).take (middle - start) = bytesBetween source start middle := by
  rw [bytesBetween, bytesBetween, List.take_drop, List.take_take, Nat.add_sub_cancel' hstart,
    Nat.min_eq_left hstop]

theorem bytesBetween_append {middle : Nat} (hstart : start ≤ middle) (hstop : middle ≤ stop) :
    bytesBetween source start middle ++ bytesBetween source middle stop =
      bytesBetween source start stop := by
  have hback : bytesBetween source middle stop =
      (bytesBetween source start stop).drop (middle - start) := by
    rw [bytesBetween, bytesBetween, List.drop_drop, Nat.add_sub_cancel' hstart]
  rw [← take_bytesBetween hstart hstop, hback, List.take_append_drop]

theorem count_bytesBetween_add (source : Text) (byte : UInt8) {middle : Nat}
    (hstart : start ≤ middle) (hstop : middle ≤ stop) :
    (bytesBetween source start middle).count byte + (bytesBetween source middle stop).count byte =
      (bytesBetween source start stop).count byte := by
  rw [← List.count_append, bytesBetween_append hstart hstop]

theorem openings_add (source : Text) {middle : Nat} (hstart : start ≤ middle)
    (hstop : middle ≤ stop) :
    openings source start middle + openings source middle stop = openings source start stop :=
  count_bytesBetween_add source 0x7B hstart hstop

theorem closings_add (source : Text) {middle : Nat} (hstart : start ≤ middle)
    (hstop : middle ≤ stop) :
    closings source start middle + closings source middle stop = closings source start stop :=
  count_bytesBetween_add source 0x7D hstart hstop

theorem length_bytesBetween (hstop : stop ≤ Text.utf8Size source) :
    (bytesBetween source start stop).length = stop - start := by
  rw [bytesBetween, List.length_drop, List.length_take, Text.length_toBytes,
    Nat.min_eq_left hstop]

theorem closings_succ_le (source : Text) (offset : Nat) :
    closings source offset (offset + 1) ≤ 1 := by
  have hlength : (bytesBetween source offset (offset + 1)).length ≤ 1 := by
    rw [bytesBetween, List.length_drop, List.length_take]
    omega
  exact Nat.le_trans List.count_le_length hlength

theorem bytesBetween_succ {byte : UInt8} {offset : Nat}
    (h : (Text.toBytes source)[offset]? = some byte) :
    bytesBetween source offset (offset + 1) = [byte] := by
  obtain ⟨hlt, -⟩ := List.getElem?_eq_some_iff.mp h
  have hlength : ((Text.toBytes source).take offset).length = offset := by
    rw [List.length_take]
    omega
  rw [bytesBetween, List.take_add_one, h, List.drop_left' hlength]
  rfl

/-- Each byte adds at most one `}`, so the surplus of `}` does not come about before an offset at
which it is one. -/
theorem closings_le_openings {offset : Nat} (hstart : start ≤ offset) (hoffset : offset ≤ stop)
    (hfirst : ∀ left ∈ leavings source start stop, offset ≤ left) :
    closings source start offset ≤ openings source start offset := by
  induction offset, hstart using Nat.le_induction with
  | base => simp [closings, bytesBetween]
  | succ offset hstart ih =>
      have hbefore := ih (by omega) (fun left hleft => by have := hfirst left hleft; omega)
      have hclosings := closings_add source hstart (Nat.le_add_right offset 1)
      have hopenings := openings_add source hstart (Nat.le_add_right offset 1)
      have hone := closings_succ_le source offset
      by_contra hsurplus
      have hleft : offset ∈ leavings source start stop := ⟨hstart, hoffset, by omega⟩
      have hlate := hfirst offset hleft
      omega

theorem matchingBrace?_eq (hstart : start ≤ stop) (hstop : stop ≤ Text.utf8Size source) :
    matchingBrace? source start stop =
      .ok (closingFrom? (fun _ => 1) 0x7B 0x7D 0 start (bytesBetween source start stop)) :=
  if_pos ⟨hstart, hstop⟩

theorem isLeast_leavings {close : Nat} (hstart : start ≤ stop)
    (hstop : stop ≤ Text.utf8Size source)
    (h : matchingBrace? source start stop = .ok (some close)) :
    IsLeast (leavings source start stop) close := by
  rw [matchingBrace?_eq hstart hstop] at h
  obtain ⟨size, rfl, hsize, hleaves, hbefore⟩ :=
    exists_size_of_closingFrom? (by decide) (Except.ok.inj h)
  rw [length_bytesBetween hstop] at hsize
  have htake (fewer : Nat) (hfewer : start + fewer ≤ stop) :
      (bytesBetween source start stop).take fewer = bytesBetween source start (start + fewer) := by
    rw [← take_bytesBetween (Nat.le_add_right start fewer) hfewer, Nat.add_sub_cancel_left]
  constructor
  · rw [htake (size + 1) (by omega), Nat.zero_add] at hleaves
    exact ⟨Nat.le_add_right start size, by omega, hleaves⟩
  · rintro offset ⟨hfrom, hto, hleft⟩
    by_contra hearly
    have hkept := hbefore (offset + 1 - start) (by omega)
    rw [htake (offset + 1 - start) (by omega), Nat.zero_add,
      Nat.add_sub_cancel' (Nat.le_add_right_of_le hfrom)] at hkept
    simp only [closings, openings] at hleft
    omega

theorem leavings_eq_empty (hstart : start ≤ stop) (hstop : stop ≤ Text.utf8Size source)
    (h : matchingBrace? source start stop = .ok none) : leavings source start stop = ∅ := by
  rw [matchingBrace?_eq hstart hstop] at h
  apply Set.eq_empty_of_forall_notMem
  rintro offset ⟨hfrom, hto, hleft⟩
  have hkept := count_le_of_closingFrom?_eq_none (by decide) (Except.ok.inj h) (offset + 1 - start)
  rw [take_bytesBetween (Nat.le_add_right_of_le hfrom) hto, Nat.zero_add] at hkept
  simp only [closings, openings] at hleft
  omega

theorem matchingBrace?_found_or_none (hstart : start ≤ stop) (hstop : stop ≤ Text.utf8Size source) :
    (∃ close, matchingBrace? source start stop = .ok (some close)) ∨
      matchingBrace? source start stop = .ok none := by
  rw [matchingBrace?_eq hstart hstop]
  cases closingFrom? (fun _ => 1) 0x7B 0x7D 0 start (bytesBetween source start stop) with
  | none => exact Or.inr rfl
  | some close => exact Or.inl ⟨close, rfl⟩

theorem matchingBrace?_eq_some_iff {close : Nat} (hstart : start ≤ stop)
    (hstop : stop ≤ Text.utf8Size source) :
    matchingBrace? source start stop = .ok (some close) ↔
      IsLeast (leavings source start stop) close := by
  constructor
  · exact isLeast_leavings hstart hstop
  · intro hleast
    obtain ⟨found, hfound⟩ | hnone := matchingBrace?_found_or_none hstart hstop
    · rw [hfound, (isLeast_leavings hstart hstop hfound).unique hleast]
    · have hclose := hleast.1
      rw [leavings_eq_empty hstart hstop hnone] at hclose
      exact absurd hclose (Set.notMem_empty close)

theorem matchingBrace?_eq_none_iff (hstart : start ≤ stop) (hstop : stop ≤ Text.utf8Size source) :
    matchingBrace? source start stop = .ok none ↔ leavings source start stop = ∅ := by
  constructor
  · exact leavings_eq_empty hstart hstop
  · intro hempty
    obtain ⟨found, hfound⟩ | hnone := matchingBrace?_found_or_none hstart hstop
    · have hleft := (isLeast_leavings hstart hstop hfound).1
      rw [hempty] at hleft
      exact absurd hleft (Set.notMem_empty found)
    · exact hnone

/-! Two searches that begin at different places. Up to the offset where the outer one ends the
braces even out, and before the `{` of the inner one there is no surplus of `}`; so there is one
behind it. -/

theorem openings_lt_closings {close mark : Nat} (hstart : start ≤ stop)
    (hstop : stop ≤ Text.utf8Size source)
    (hclose : matchingBrace? source start stop = .ok (some close)) (hmark : start ≤ mark)
    (hbefore : mark < close) (hbyte : (Text.toBytes source)[mark]? = some 0x7B) :
    openings source (mark + 1) close < closings source (mark + 1) close := by
  obtain ⟨⟨hfrom, hto, hleft⟩, hfirst⟩ := isLeast_leavings hstart hstop hclose
  have hend : closings source start close ≤ openings source start close :=
    closings_le_openings hfrom (Nat.le_of_lt hto) hfirst
  have hfront : closings source start mark ≤ openings source start mark :=
    closings_le_openings hmark (Nat.le_of_lt (Nat.lt_trans hbefore hto))
      fun left hleft => Nat.le_trans (Nat.le_of_lt hbefore) (hfirst hleft)
  have hopening : openings source mark (mark + 1) = 1 := by
    rw [openings, bytesBetween_succ hbyte]
    rfl
  have hclosing : closings source mark (mark + 1) = 0 := by
    rw [closings, bytesBetween_succ hbyte]
    rfl
  have hlast := closings_succ_le source close
  have hopeningsEnd := openings_add source hfrom (Nat.le_add_right close 1)
  have hclosingsEnd := closings_add source hfrom (Nat.le_add_right close 1)
  have hopeningsMark := openings_add source hmark (Nat.le_of_lt hbefore)
  have hclosingsMark := closings_add source hmark (Nat.le_of_lt hbefore)
  have hopenings := openings_add source (Nat.le_add_right mark 1) hbefore
  have hclosings := closings_add source (Nat.le_add_right mark 1) hbefore
  omega

/-- The first offset at which there is a surplus is the first one up to any later stop. -/
theorem isLeast_leavings_mono {inner close found : Nat} (hclose : close ≤ stop)
    (h : IsLeast (leavings source inner close) found) :
    IsLeast (leavings source inner stop) found := by
  obtain ⟨⟨hfrom, hto, hleft⟩, hfirst⟩ := h
  refine ⟨⟨hfrom, Nat.lt_of_lt_of_le hto hclose, hleft⟩, ?_⟩
  rintro offset ⟨hoffset, -, hoffsetLeft⟩
  by_cases hinside : offset < close
  · exact hfirst ⟨hoffset, hinside, hoffsetLeft⟩
  · omega

theorem exists_matchingBrace?_nested {close mark : Nat} (hstart : start ≤ stop)
    (hstop : stop ≤ Text.utf8Size source)
    (hclose : matchingBrace? source start stop = .ok (some close)) (hmark : start ≤ mark)
    (hbefore : mark < close) (hbyte : (Text.toBytes source)[mark]? = some 0x7B) :
    ∃ found, found < close ∧ matchingBrace? source (mark + 1) close = .ok (some found) ∧
      matchingBrace? source (mark + 1) stop = .ok (some found) := by
  have hto : close < stop := lt_of_matchingBrace? hclose
  have hsize : close ≤ Text.utf8Size source := by omega
  obtain ⟨found, hfound⟩ | hnone := matchingBrace?_found_or_none hbefore hsize
  · refine ⟨found, lt_of_matchingBrace? hfound, hfound, ?_⟩
    rw [matchingBrace?_eq_some_iff (by omega) hstop]
    exact isLeast_leavings_mono (Nat.le_of_lt hto) (isLeast_leavings hbefore hsize hfound)
  · have hsurplus := openings_lt_closings hstart hstop hclose hmark hbefore hbyte
    have hempty := leavings_eq_empty hbefore hsize hnone
    have hkept : closings source (mark + 1) close ≤ openings source (mark + 1) close := by
      apply closings_le_openings hbefore (Nat.le_refl close)
      intro left hleft
      rw [hempty] at hleft
      exact absurd hleft (Set.notMem_empty left)
    exact absurd hsurplus (Nat.not_lt.mpr hkept)

end

/-- The `}` that belongs to a place is the least offset with a surplus of one `}`, and there is none
only if there is no such offset; as long as none has been passed, the `}` do not outnumber the `{`.
Behind every `{` inside a matched stretch there is another match before the end of that stretch, and
it is the same however far the search may go. -/
theorem matchingBrace?_first_and_nested {source : Text} {start stop : Nat} (hstart : start ≤ stop)
    (hstop : stop ≤ Text.utf8Size source) :
    (∀ close, matchingBrace? source start stop = .ok (some close) ↔
      IsLeast (leavings source start stop) close) ∧
    (matchingBrace? source start stop = .ok none ↔ leavings source start stop = ∅) ∧
    (∀ offset, start ≤ offset → offset ≤ stop →
      (∀ left ∈ leavings source start stop, offset ≤ left) →
      closings source start offset ≤ openings source start offset) ∧
    ∀ close, matchingBrace? source start stop = .ok (some close) →
      ∀ inner, start < inner → inner ≤ close → (Text.toBytes source)[inner - 1]? = some 0x7B →
      ∃ found, found < close ∧ matchingBrace? source inner close = .ok (some found) ∧
        matchingBrace? source inner stop = .ok (some found) := by
  refine ⟨fun close => matchingBrace?_eq_some_iff hstart hstop,
    matchingBrace?_eq_none_iff hstart hstop, ?_, ?_⟩
  · intro offset hfrom hto hfirst
    exact closings_le_openings hfrom hto hfirst
  · intro close hclose inner hinner hbefore hbyte
    obtain ⟨mark, rfl⟩ := Nat.exists_eq_add_one_of_ne_zero (Nat.ne_zero_of_lt hinner)
    exact exists_matchingBrace?_nested hstart hstop hclose (Nat.le_of_lt_succ hinner) hbefore hbyte

/-- The search begins inside a character. Behind the braces that match, another pair brings the
surplus back to one at offset 8. -/
theorem exists_first_and_nested_match :
    matchingBrace? r#"é{a}b}{}"#.toList 1 9 = .ok (some 6) ∧
    IsLeast (leavings r#"é{a}b}{}"#.toList 1 9) 6 ∧ 8 ∈ leavings r#"é{a}b}{}"#.toList 1 9 ∧
    closings r#"é{a}b}{}"#.toList 1 6 ≤ openings r#"é{a}b}{}"#.toList 1 6 ∧
    ∃ found, found < 6 ∧ matchingBrace? r#"é{a}b}{}"#.toList 3 6 = .ok (some found) ∧
      matchingBrace? r#"é{a}b}{}"#.toList 3 9 = .ok (some found) := by
  have hrange : 1 ≤ 9 ∧ 9 ≤ Text.utf8Size r#"é{a}b}{}"#.toList := by decide
  obtain ⟨hfirst, -, hkept, hnested⟩ := matchingBrace?_first_and_nested hrange.1 hrange.2
  have hclose : matchingBrace? r#"é{a}b}{}"#.toList 1 9 = .ok (some 6) := by decide
  have hleast := (hfirst 6).mp hclose
  refine ⟨hclose, hleast, ?_, hkept 6 (by decide) (by decide) hleast.2, ?_⟩
  · exact ⟨by decide, by decide, by decide⟩
  · exact hnested 6 hclose 3 (by decide) (by decide) (by decide)

end Inlay.Markup
