import Inlay.Markup.Offset

namespace Inlay.Markup

/-! Balanced braces, by counting and by walking. A walk keeps the number of open levels and stops
where a `}` closes none of them; the `}` that belongs to a `{` is the first at which the walk from
that `{` is back at its own level. -/

structure Balanced (text : Text) : Prop where
  closings_le : ∀ front, front <+: text → front.count '}' ≤ front.count '{'
  totals : text.count '{' = text.count '}'

/-- The number of open levels behind a text, from the number before it. -/
def depthAfter? (depth : Nat) : Text → Option Nat
  | [] => some depth
  | c :: rest =>
      if c = '{' then depthAfter? (depth + 1) rest
      else if c = '}' then
        match depth with
        | 0 => none
        | depth + 1 => depthAfter? depth rest
      else depthAfter? depth rest

@[simp] theorem depthAfter?_opening (depth : Nat) (rest : Text) :
    depthAfter? depth ('{' :: rest) = depthAfter? (depth + 1) rest := rfl

@[simp] theorem depthAfter?_closing_zero (rest : Text) :
    depthAfter? 0 ('}' :: rest) = none := rfl

@[simp] theorem depthAfter?_closing_succ (depth : Nat) (rest : Text) :
    depthAfter? (depth + 1) ('}' :: rest) = depthAfter? depth rest := rfl

theorem depthAfter?_other {c : Char} (hopening : c ≠ '{') (hclosing : c ≠ '}')
    (depth : Nat) (rest : Text) : depthAfter? depth (c :: rest) = depthAfter? depth rest := by
  simp [depthAfter?, hopening, hclosing]

theorem depthAfter?_of_braceless {text : Text} (hopening : '{' ∉ text) (hclosing : '}' ∉ text)
    (depth : Nat) : depthAfter? depth text = some depth := by
  induction text with
  | nil => rfl
  | cons c rest ih =>
      simp only [List.mem_cons, not_or] at hopening hclosing
      rw [depthAfter?_other (Ne.symm hopening.1) (Ne.symm hclosing.1)]
      exact ih hopening.2 hclosing.2

theorem depthAfter?_append (depth : Nat) (front back : Text) :
    depthAfter? depth (front ++ back) =
      (depthAfter? depth front).bind (fun between => depthAfter? between back) := by
  induction front generalizing depth with
  | nil => rfl
  | cons c front ih =>
      simp only [List.cons_append, depthAfter?]
      split
      · exact ih (depth + 1)
      · split
        · cases depth with
          | zero => rfl
          | succ depth => exact ih depth
        · exact ih depth

theorem depthAfter?_append_of_eq {depth between : Nat} {front : Text}
    (h : depthAfter? depth front = some between) (back : Text) :
    depthAfter? depth (front ++ back) = depthAfter? between back := by
  rw [depthAfter?_append, h]
  rfl

/-- More open levels around a text stay open behind it. -/
theorem depthAfter?_add {depth following : Nat} {text : Text}
    (h : depthAfter? depth text = some following) (around : Nat) :
    depthAfter? (depth + around) text = some (following + around) := by
  induction text generalizing depth with
  | nil =>
      cases h
      rfl
  | cons c rest ih =>
      simp only [depthAfter?] at h ⊢
      split at h
      · rename_i hopening
        rw [if_pos hopening, Nat.add_right_comm]
        exact ih h
      · rename_i hopening
        rw [if_neg hopening]
        split at h
        · rename_i hclosing
          rw [if_pos hclosing]
          cases depth with
          | zero => cases h
          | succ depth =>
              rw [Nat.succ_add]
              exact ih h
        · rename_i hclosing
          rw [if_neg hclosing]
          exact ih h

private theorem prefix_cons_counts {c : Char} {rest : Text} {depth : Nat} :
    (∀ front, front <+: c :: rest → front.count '}' ≤ depth + front.count '{') ↔
      ∀ front, front <+: rest →
        (c :: front).count '}' ≤ depth + (c :: front).count '{' := by
  constructor
  · intro h front hfront
    exact h (c :: front) (List.prefix_cons_inj c |>.mpr hfront)
  · intro h front hfront
    rcases List.prefix_cons_iff.mp hfront with rfl | ⟨back, rfl, hback⟩
    · simp
    · exact h back hback

theorem depthAfter?_eq_some_iff {depth following : Nat} {text : Text} :
    depthAfter? depth text = some following ↔
      (∀ front, front <+: text → front.count '}' ≤ depth + front.count '{') ∧
        depth + text.count '{' = following + text.count '}' := by
  induction text generalizing depth with
  | nil => simp [depthAfter?]
  | cons c rest ih =>
      rw [prefix_cons_counts]
      by_cases hopening : c = '{'
      · subst hopening
        rw [depthAfter?_opening, ih]
        simp [Nat.add_assoc, Nat.add_comm 1]
      · by_cases hclosing : c = '}'
        · subst hclosing
          cases depth with
          | zero =>
              have hempty : ¬ ∀ front : Text, front <+: rest →
                  ('}' :: front).count '}' ≤ 0 + ('}' :: front).count '{' := by
                intro h
                simpa using h [] (List.nil_prefix)
              simp only [depthAfter?_closing_zero, hempty, false_and, reduceCtorEq]
          | succ depth =>
              rw [depthAfter?_closing_succ, ih]
              simp [Nat.add_right_comm, ← Nat.add_assoc]
        · rw [depthAfter?_other hopening hclosing, ih]
          simp [hopening, hclosing]

theorem balanced_iff_depthAfter? {text : Text} :
    Balanced text ↔ depthAfter? 0 text = some 0 := by
  rw [depthAfter?_eq_some_iff]
  simp only [Nat.zero_add]
  exact ⟨fun h => ⟨h.closings_le, h.totals⟩, fun h => ⟨h.1, h.2⟩⟩

instance (text : Text) : Decidable (Balanced text) :=
  decidable_of_iff (depthAfter? 0 text = some 0) balanced_iff_depthAfter?.symm

namespace Balanced

theorem of_braceless {text : Text} (hopening : '{' ∉ text) (hclosing : '}' ∉ text) :
    Balanced text :=
  balanced_iff_depthAfter?.mpr (depthAfter?_of_braceless hopening hclosing 0)

theorem append {front back : Text} (hfront : Balanced front) (hback : Balanced back) :
    Balanced (front ++ back) := by
  rw [balanced_iff_depthAfter?] at hfront hback ⊢
  rw [depthAfter?_append_of_eq hfront, hback]

theorem depthAfter?_behind {inside : Text} (h : Balanced inside) (depth : Nat) (behind : Text) :
    depthAfter? (depth + 1) (inside ++ '}' :: behind) = depthAfter? depth behind := by
  have hdeeper := depthAfter?_add (balanced_iff_depthAfter?.mp h) (depth + 1)
  rw [Nat.zero_add] at hdeeper
  rw [depthAfter?_append_of_eq hdeeper, depthAfter?_closing_succ]

theorem enclose {inside behind : Text} (hinside : Balanced inside) (hbehind : Balanced behind) :
    Balanced ('{' :: (inside ++ '}' :: behind)) := by
  rw [balanced_iff_depthAfter?] at hbehind ⊢
  rw [depthAfter?_opening, hinside.depthAfter?_behind, hbehind]

end Balanced

theorem closingFrom?_append {depth : Nat} {inside : Text}
    (h : depthAfter? depth inside = some 0) (position : Nat) (behind : Text) :
    closingFrom? Char.utf8Size '{' '}' depth position (inside ++ '}' :: behind) =
      some (position + Text.utf8Size inside) := by
  induction inside generalizing depth position with
  | nil =>
      cases h
      rfl
  | cons c inside ih =>
      simp only [depthAfter?] at h
      simp only [List.cons_append, closingFrom?, Text.utf8Size_cons, ← Nat.add_assoc]
      split at h
      · rename_i hopening
        rw [if_pos hopening]
        exact ih h _
      · rename_i hopening
        rw [if_neg hopening]
        split at h
        · rename_i hclosing
          rw [if_pos hclosing]
          cases depth with
          | zero => cases h
          | succ depth => exact ih h _
        · rename_i hclosing
          rw [if_neg hclosing]
          exact ih h _

theorem split_of_closingFrom? {depth position found : Nat} {text : Text}
    (h : closingFrom? Char.utf8Size '{' '}' depth position text = some found) :
    ∃ inside behind, text = inside ++ '}' :: behind ∧ depthAfter? depth inside = some 0 ∧
      found = position + Text.utf8Size inside := by
  induction text generalizing depth position with
  | nil => cases h
  | cons c rest ih =>
      -- A character that does not end the search belongs to the inside.
      have hstep {following : Nat}
          (hsearch : closingFrom? Char.utf8Size '{' '}' following (position + c.utf8Size) rest =
            some found)
          (hwalk : ∀ inside, depthAfter? depth (c :: inside) = depthAfter? following inside) :
          ∃ inside behind, c :: rest = inside ++ '}' :: behind ∧
            depthAfter? depth inside = some 0 ∧ found = position + Text.utf8Size inside := by
        obtain ⟨inside, behind, hrest, hdepth, hfound⟩ := ih hsearch
        refine ⟨c :: inside, behind, by rw [hrest, List.cons_append], ?_, ?_⟩
        · rw [hwalk, hdepth]
        · rw [hfound, Text.utf8Size_cons, Nat.add_assoc]
      simp only [closingFrom?] at h
      split at h
      · rename_i hopening
        subst hopening
        exact hstep h (depthAfter?_opening depth)
      · rename_i hopening
        split at h
        · rename_i hclosing
          subst hclosing
          cases depth with
          | zero =>
              cases h
              exact ⟨[], rest, rfl, rfl, rfl⟩
          | succ depth => exact hstep h (depthAfter?_closing_succ depth)
        · rename_i hclosing
          exact hstep h (depthAfter?_other hopening hclosing depth)

theorem closingBrace?_append {inside : Text} (h : Balanced inside) (offset : Nat)
    (behind : Text) :
    closingBrace? offset (inside ++ '}' :: behind) = some (offset + Text.utf8Size inside) :=
  closingFrom?_append (balanced_iff_depthAfter?.mp h) offset behind

theorem closingBrace?_of_none {text : Text} (h : closingBrace? 0 text = none) (offset : Nat) :
    closingBrace? offset text = none := by
  have hmove := closingFrom?_add Char.utf8Size '{' '}' 0 0 offset text
  unfold closingBrace? at h ⊢
  rw [h, Nat.zero_add] at hmove
  exact hmove

theorem split_of_closingBrace? {offset found : Nat} {text : Text}
    (h : closingBrace? offset text = some found) :
    ∃ inside behind, text = inside ++ '}' :: behind ∧ Balanced inside ∧
      found = offset + Text.utf8Size inside := by
  obtain ⟨inside, behind, htext, hdepth, hfound⟩ := split_of_closingFrom? h
  exact ⟨inside, behind, htext, balanced_iff_depthAfter?.mpr hdepth, hfound⟩

/-- A level that is left is left at one `}`: a walk that starts inside `inner + 1` levels and ends
inside no more than `outer` of them splits there. -/
theorem split_of_depthAfter? {inner outer following : Nat} {text : Text}
    (h : depthAfter? (inner + outer + 1) text = some following) (hfollowing : following ≤ outer) :
    ∃ inside behind, text = inside ++ '}' :: behind ∧ depthAfter? inner inside = some 0 ∧
      depthAfter? outer behind = some following := by
  induction text generalizing inner with
  | nil =>
      have hsame : inner + outer + 1 = following := Option.some.inj h
      omega
  | cons c rest ih =>
      by_cases hopening : c = '{'
      · subst hopening
        rw [depthAfter?_opening, show inner + outer + 1 + 1 = inner + 1 + outer + 1 by omega] at h
        obtain ⟨inside, behind, hrest, hinside, hbehind⟩ := ih h
        exact ⟨'{' :: inside, behind, by rw [hrest, List.cons_append], hinside, hbehind⟩
      · by_cases hclosing : c = '}'
        · subst hclosing
          cases inner with
          | zero =>
              rw [Nat.zero_add, depthAfter?_closing_succ] at h
              exact ⟨[], rest, rfl, rfl, h⟩
          | succ inner =>
              rw [depthAfter?_closing_succ, Nat.add_right_comm] at h
              obtain ⟨inside, behind, hrest, hinside, hbehind⟩ := ih h
              exact ⟨'}' :: inside, behind, by rw [hrest, List.cons_append], hinside, hbehind⟩
        · rw [depthAfter?_other hopening hclosing] at h
          obtain ⟨inside, behind, hrest, hinside, hbehind⟩ := ih h
          refine ⟨c :: inside, behind, by rw [hrest, List.cons_append], ?_, hbehind⟩
          rw [depthAfter?_other hopening hclosing, hinside]

theorem split_of_depthAfter?_succ {depth : Nat} {text : Text}
    (h : depthAfter? (depth + 1) text = some 0) :
    ∃ inside behind, text = inside ++ '}' :: behind ∧ Balanced inside := by
  have hleft : depthAfter? (0 + depth + 1) text = some 0 := by rwa [Nat.zero_add]
  obtain ⟨inside, behind, htext, hinside, -⟩ := split_of_depthAfter? hleft (Nat.zero_le depth)
  exact ⟨inside, behind, htext, balanced_iff_depthAfter?.mpr hinside⟩

/-! The same search over bytes. Every byte of a character beyond ASCII is 128 or more, so a byte of
a brace comes from a brace. -/

private theorem toNat_eq_of_mem_utf8EncodeChar {c : Char} {byte : UInt8}
    (h : byte ∈ String.utf8EncodeChar c) (hbyte : byte.toNat < 128) :
    c.toNat = byte.toNat := by
  have hcode : c.toNat = c.val.toNat := rfl
  have hlong (n bound base : Nat) (hbound : bound + base ≤ 256) (hbase : 128 ≤ base)
      (hpos : 0 < bound) : ¬ (UInt8.ofNat (n % bound + base)).toNat < 128 := by
    have hmod := Nat.mod_lt n hpos
    rw [UInt8.toNat_ofNat', Nat.mod_eq_of_lt (by omega)]
    omega
  revert h
  fun_cases String.utf8EncodeChar c
  · intro h
    rw [List.mem_singleton.mp h, UInt8.toNat_ofNat', Nat.mod_eq_of_lt (by omega), hcode]
  all_goals
    intro h
    simp only [List.mem_cons, List.not_mem_nil, or_false] at h
    rcases h with rfl | rfl | rfl | rfl
    all_goals exact absurd hbyte (hlong _ _ _ (by decide) (by decide) (by decide))

private theorem not_mem_utf8EncodeChar {c mark : Char} {byte : UInt8} (hne : c ≠ mark)
    (hbyte : byte.toNat = mark.toNat) (hmark : mark.toNat < 128) :
    byte ∉ String.utf8EncodeChar c := by
  intro hmem
  have hcode := toNat_eq_of_mem_utf8EncodeChar hmem (by omega)
  exact hne (Char.toNat_inj.mp (hcode.trans hbyte))

private theorem closingFrom?_append_of_not_mem {opening closing : UInt8} {items : List UInt8}
    (hopening : opening ∉ items) (hclosing : closing ∉ items) (depth position : Nat)
    (rest : List UInt8) :
    closingFrom? (fun _ => 1) opening closing depth position (items ++ rest) =
      closingFrom? (fun _ => 1) opening closing depth (position + items.length) rest := by
  induction items generalizing position with
  | nil => rfl
  | cons item items ih =>
      simp only [List.mem_cons, not_or] at hopening hclosing
      have hmove : position + 1 + items.length = position + (item :: items).length := by
        rw [List.length_cons]
        omega
      simp only [List.cons_append, closingFrom?, if_neg (Ne.symm hopening.1),
        if_neg (Ne.symm hclosing.1), ih hopening.2 hclosing.2, hmove]

theorem closingFrom?_toBytes (depth position : Nat) (text : Text) :
    closingFrom? (fun _ => 1) 0x7B 0x7D depth position (Text.toBytes text) =
      closingFrom? Char.utf8Size '{' '}' depth position text := by
  induction text generalizing depth position with
  | nil => rfl
  | cons c rest ih =>
      have hbytes : Text.toBytes (c :: rest) = String.utf8EncodeChar c ++ Text.toBytes rest := rfl
      rw [hbytes]
      by_cases hopening : c = '{'
      · subst hopening
        exact ih (depth + 1) (position + 1)
      · by_cases hclosing : c = '}'
        · subst hclosing
          cases depth with
          | zero => rfl
          | succ depth => exact ih depth (position + 1)
        · rw [closingFrom?_append_of_not_mem
            (not_mem_utf8EncodeChar hopening (by decide) (by decide))
            (not_mem_utf8EncodeChar hclosing (by decide) (by decide)),
            String.length_utf8EncodeChar, ih]
          simp only [closingFrom?, if_neg hopening, if_neg hclosing]

theorem toBytes_append (front back : Text) :
    Text.toBytes (front ++ back) = Text.toBytes front ++ Text.toBytes back :=
  List.flatMap_append

/-- Between two places of a source, the search by offsets is the search in the text between. -/
theorem matchingBrace?_append (front inside back : Text) :
    matchingBrace? (front ++ inside ++ back) (Text.utf8Size front)
        (Text.utf8Size front + Text.utf8Size inside) =
      .ok (closingBrace? (Text.utf8Size front) inside) := by
  have hbytes : ((Text.toBytes (front ++ inside ++ back)).take
      (Text.utf8Size front + Text.utf8Size inside)).drop (Text.utf8Size front) =
        Text.toBytes inside := by
    rw [toBytes_append, List.take_left' (by simp), toBytes_append, List.drop_left' (by simp)]
  rw [matchingBrace?, if_pos (by simp), hbytes]
  exact congrArg Except.ok (closingFrom?_toBytes 0 (Text.utf8Size front) inside)

private theorem lt_of_closingFrom? {opening closing : UInt8} {depth position found : Nat}
    {items : List UInt8}
    (h : closingFrom? (fun _ => 1) opening closing depth position items = some found) :
    found < position + items.length := by
  induction items generalizing depth position with
  | nil => cases h
  | cons item items ih =>
      have hstep {following : Nat}
          (hsearch : closingFrom? (fun _ => 1) opening closing following (position + 1) items =
            some found) : found < position + (item :: items).length := by
        have hfound := ih hsearch
        rw [List.length_cons]
        omega
      simp only [closingFrom?] at h
      split at h
      · exact hstep h
      · split at h
        · cases depth with
          | zero =>
              cases h
              rw [List.length_cons]
              omega
          | succ depth => exact hstep h
        · exact hstep h

theorem le_of_matchingBrace? {source : Text} {start stop : Nat} {found : Option Nat}
    (h : matchingBrace? source start stop = .ok found) : stop ≤ Text.utf8Size source := by
  unfold matchingBrace? at h
  split at h
  · rename_i hrange
    exact hrange.2
  · cases h

theorem lt_of_matchingBrace? {source : Text} {start stop found : Nat}
    (h : matchingBrace? source start stop = .ok (some found)) : found < stop := by
  unfold matchingBrace? at h
  split at h
  · rename_i hrange
    have hfound := lt_of_closingFrom? (Except.ok.inj h)
    rw [List.length_drop, List.length_take, Text.length_toBytes] at hfound
    omega
  · cases h

end Inlay.Markup
