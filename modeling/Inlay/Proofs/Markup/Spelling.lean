import Inlay.Markup.Offset
import Inlay.Proofs.Markup.AttributeGroup
import Inlay.Proofs.Text
import Mathlib.Data.List.TakeWhile

namespace Inlay.Markup

/-! The spelling of a head. A head is recognised by the characters from its `@` to its `{` alone, so
it is the same head in every text that goes on behind them and in every part that holds them. -/

def Spells (spelled : Text) (head : Head) : Prop :=
  Head.scan? spelled = some (head, [])

instance (spelled : Text) (head : Head) : Decidable (Spells spelled head) :=
  inferInstanceAs (Decidable (Head.scan? spelled = some (head, [])))

theorem isNameChar_of_isBlank {c : Char} (h : Text.isBlank c = true) : isNameChar c = false := by
  apply Bool.eq_false_iff.mpr
  intro hname
  simp only [Text.isBlank, Bool.or_eq_true, Bool.and_eq_true, decide_eq_true_eq,
    beq_iff_eq] at h
  unfold isNameChar Char.isAlphanum Char.isAlpha Char.isUpper Char.isLower Char.isDigit at hname
  simp only [Bool.or_eq_true, Bool.and_eq_true, decide_eq_true_eq, ge_iff_le,
    UInt32.le_iff_toNat_le, beq_iff_eq] at hname
  have hcode : c.toNat = c.val.toNat := rfl
  rcases hname with hname | rfl
  · have hlast : 'Z'.val.toNat = 90 ∧ 'z'.val.toNat = 122 ∧ '9'.val.toNat = 57 := ⟨rfl, rfl, rfl⟩
    have hfirst : 'A'.val.toNat = 65 ∧ 'a'.val.toNat = 97 ∧ '0'.val.toNat = 48 := ⟨rfl, rfl, rfl⟩
    omega
  · revert h
    decide

namespace Opening

theorem read?_of_name {name after : Text} {c : Char} (hname : name ≠ [])
    (hchars : ∀ d ∈ name, isNameChar d = true) (hc : isNameChar c = false) (hgroup : c ≠ '(') :
    read? ('@' :: (name ++ c :: after)) = some ⟨name, [], c :: after⟩ := by
  have htake := Text.takeWhile_append_cons hchars hc after
  have hdrop := Text.dropWhile_append_cons hchars hc after
  simp only [read?, htake, hdrop, List.isEmpty_iff, hname, if_false]
  split
  · rename_i inside hinside
    exact absurd (List.cons.inj hinside).1 hgroup
  · rfl

theorem read?_of_group {name inside after : Text} (hname : name ≠ [])
    (hchars : ∀ d ∈ name, isNameChar d = true)
    (hgroup : AttributeGroup.rest? inside = some after) :
    read? ('@' :: (name ++ '(' :: inside)) =
      some ⟨name, AttributeGroup.segments inside, after⟩ := by
  have hmark : isNameChar '(' = false := by decide
  have htake := Text.takeWhile_append_cons hchars hmark inside
  have hdrop := Text.dropWhile_append_cons hchars hmark inside
  simp only [read?, htake, hdrop, List.isEmpty_iff, hname, if_false, hgroup, Option.map_some]

/-- What an opening is made of: a name, and then either no group or a closed one. -/
theorem cases_of_read? {text : Text} {opening : Opening} (h : read? text = some opening) :
    opening.name ≠ [] ∧ (∀ c ∈ opening.name, isNameChar c = true) ∧
      ((opening.segments = [] ∧ text = '@' :: (opening.name ++ opening.after)) ∨
        ∃ inside, AttributeGroup.rest? inside = some opening.after ∧
          opening.segments = AttributeGroup.segments inside ∧
          text = '@' :: (opening.name ++ '(' :: inside)) := by
  unfold read? at h
  split at h
  · rename_i rest
    have hrest := List.takeWhile_append_dropWhile (p := isNameChar) (l := rest)
    have hchars (c : Char) (hc : c ∈ rest.takeWhile isNameChar) : isNameChar c = true :=
      List.mem_takeWhile_imp hc
    simp only at h
    split at h
    · cases h
    · rename_i hname
      rw [List.isEmpty_iff] at hname
      split at h
      · rename_i inside hinside
        obtain ⟨after, hafter, hopening⟩ := Option.map_eq_some_iff.mp h
        subst hopening
        rw [hinside] at hrest
        exact ⟨hname, hchars, Or.inr ⟨inside, hafter, rfl, by rw [hrest]⟩⟩
      · cases h
        exact ⟨hname, hchars, Or.inl ⟨rfl, by rw [hrest]⟩⟩
  · cases h

/-- An opening is read from its own characters, if what follows goes on neither with the name nor
with a group. -/
theorem exists_spelled_of_read? {text : Text} {opening : Opening}
    (h : read? text = some opening) :
    ∃ spelled, text = spelled ++ opening.after ∧ ∀ c back, isNameChar c = false → c ≠ '(' →
      read? (spelled ++ c :: back) = some { opening with after := c :: back } := by
  obtain ⟨hname, hchars, ⟨hsegments, htext⟩ | ⟨inside, hafter, hsegments, htext⟩⟩ :=
    cases_of_read? h
  · refine ⟨'@' :: opening.name, htext, ?_⟩
    intro c back hc hgroup
    rw [List.cons_append, read?_of_name hname hchars hc hgroup, hsegments]
  · obtain ⟨group, hinside, hread⟩ := AttributeGroup.exists_group_of_restFrom? hafter
    refine ⟨'@' :: (opening.name ++ '(' :: group), by rw [htext, hinside]; simp, ?_⟩
    intro c back _ _
    have hgroup := read?_of_group hname hchars (hread (c :: back)).1
    rw [AttributeGroup.segments, (hread (c :: back)).2] at hgroup
    rw [hsegments, AttributeGroup.segments]
    simpa using hgroup

theorem body?_of_blanks {opening : Opening} {blanks body : Text}
    (hblanks : ∀ c ∈ blanks, Text.isBlank c = true)
    (hafter : opening.after = blanks ++ '{' :: body) :
    opening.body? = some (opening.size + Text.utf8Size blanks + 1, body) := by
  have hmark : Text.isBlank '{' = false := by decide
  have htake := Text.takeWhile_append_cons hblanks hmark body
  have hdrop := Text.dropWhile_append_cons hblanks hmark body
  simp only [body?, hafter, htake, hdrop]

theorem exists_blanks_of_body? {opening : Opening} {size : Nat} {body : Text}
    (h : opening.body? = some (size, body)) :
    ∃ blanks, (∀ c ∈ blanks, Text.isBlank c = true) ∧
      opening.after = blanks ++ '{' :: body ∧ size = opening.size + Text.utf8Size blanks + 1 := by
  have hafter := List.takeWhile_append_dropWhile (p := Text.isBlank) (l := opening.after)
  simp only [body?] at h
  split at h
  · rename_i rest hrest
    obtain ⟨rfl, rfl⟩ := Prod.mk.inj (Option.some.inj h)
    rw [hrest] at hafter
    exact ⟨_, fun c hc => List.mem_takeWhile_imp hc, hafter.symm, rfl⟩
  · cases h

end Opening

namespace Head

theorem complete?_of_blanks {opening : Opening} {blanks body : Text}
    (hblanks : ∀ c ∈ blanks, Text.isBlank c = true)
    (hafter : opening.after = blanks ++ '{' :: body) :
    complete? opening = some (⟨opening.name, attributesOf opening.segments,
      opening.size + Text.utf8Size blanks + 1⟩, body) := by
  rw [complete?, Opening.body?_of_blanks hblanks hafter]
  rfl

theorem exists_blanks_of_complete? {opening : Opening} {head : Head} {body : Text}
    (h : complete? opening = some (head, body)) :
    ∃ blanks, (∀ c ∈ blanks, Text.isBlank c = true) ∧
      opening.after = blanks ++ '{' :: body ∧
      head = ⟨opening.name, attributesOf opening.segments,
        opening.size + Text.utf8Size blanks + 1⟩ := by
  obtain ⟨⟨size, rest⟩, hbody, hpair⟩ := Option.map_eq_some_iff.mp h
  obtain ⟨rfl, rfl⟩ := Prod.mk.inj hpair
  obtain ⟨blanks, hblanks, hafter, rfl⟩ := Opening.exists_blanks_of_body? hbody
  exact ⟨blanks, hblanks, hafter, rfl⟩

theorem exists_local_of_scan? {text body : Text} {head : Head}
    (h : scan? text = some (head, body)) :
    ∃ spelled, text = spelled ++ body ∧ ∀ back, scan? (spelled ++ back) = some (head, back) := by
  obtain ⟨opening, hopening, hhead⟩ := Option.bind_eq_some_iff.mp h
  obtain ⟨start, htext, hread⟩ := Opening.exists_spelled_of_read? hopening
  obtain ⟨blanks, hblanks, hafter, rfl⟩ := exists_blanks_of_complete? hhead
  refine ⟨start ++ (blanks ++ ['{']), by rw [htext, hafter]; simp, ?_⟩
  intro back
  -- The opening is followed by a blank or by the `{`, and neither goes on with it.
  have hopened : Opening.read? (start ++ (blanks ++ '{' :: back)) =
      some { opening with after := blanks ++ '{' :: back } := by
    cases blanks with
    | nil => exact hread '{' back (by decide) (by decide)
    | cons c blanks =>
        have hc : Text.isBlank c = true := hblanks c (by simp)
        refine hread c (blanks ++ '{' :: back) (isNameChar_of_isBlank hc) ?_
        rintro rfl
        exact absurd hc (by decide)
  rw [List.append_assoc, List.append_assoc, List.singleton_append, scan?, hopened]
  exact complete?_of_blanks hblanks rfl

theorem exists_spells_of_scan? {text body : Text} {head : Head}
    (h : scan? text = some (head, body)) :
    ∃ spelled, text = spelled ++ body ∧ Spells spelled head := by
  obtain ⟨spelled, htext, hlocal⟩ := exists_local_of_scan? h
  refine ⟨spelled, htext, ?_⟩
  rw [Spells, ← hlocal [], List.append_nil]

theorem scan?_append_of_some {text body : Text} {head : Head}
    (h : scan? text = some (head, body)) (back : Text) :
    scan? (text ++ back) = some (head, body ++ back) := by
  obtain ⟨spelled, rfl, hlocal⟩ := exists_local_of_scan? h
  rw [List.append_assoc]
  exact hlocal (body ++ back)

theorem scan?_cons_of_ne {c : Char} (h : c ≠ '@') (rest : Text) : scan? (c :: rest) = none := by
  have hread : Opening.read? (c :: rest) = none := by
    unfold Opening.read?
    split
    · rename_i hmark
      exact absurd (List.cons.inj hmark).1 h
    · rfl
  rw [scan?, hread]
  rfl

end Head

namespace Spells

variable {spelled : Text} {head : Head}

theorem scan?_append (h : Spells spelled head) (back : Text) :
    Head.scan? (spelled ++ back) = some (head, back) := by
  obtain ⟨same, hsame, hlocal⟩ := Head.exists_local_of_scan? h
  rw [hsame, List.append_nil]
  exact hlocal back

/-- A text begins with one spelling of a head at most. -/
theorem append_inj {other : Text} {otherHead : Head} (h : Spells spelled head)
    (hother : Spells other otherHead) {body otherBody : Text}
    (htext : spelled ++ body = other ++ otherBody) : spelled = other ∧ body = otherBody := by
  have hheads := h.scan?_append body
  rw [htext, hother.scan?_append] at hheads
  obtain ⟨-, rfl⟩ := Prod.mk.inj (Option.some.inj hheads)
  exact ⟨List.append_cancel_right htext, rfl⟩

theorem utf8Size (h : Spells spelled head) : Text.utf8Size spelled = head.size :=
  Head.utf8Size_of_scan? h

theorem exists_eq_cons (h : Spells spelled head) : ∃ rest, spelled = '@' :: rest := by
  cases spelled with
  | nil => cases h
  | cons c rest =>
      by_cases hc : c = '@'
      · exact ⟨rest, by rw [hc]⟩
      · rw [Spells, Head.scan?_cons_of_ne hc] at h
        cases h

theorem head?_append (h : Spells spelled head) (back : Text) :
    (spelled ++ back).head? = some '@' := by
  obtain ⟨rest, rfl⟩ := h.exists_eq_cons
  rfl

theorem size_pos (h : Spells spelled head) : 0 < head.size := by
  obtain ⟨rest, rfl⟩ := h.exists_eq_cons
  have hmark : '@'.utf8Size = 1 := rfl
  rw [← h.utf8Size, Text.utf8Size_cons]
  omega

theorem ne_nil (h : Spells spelled head) : spelled ≠ [] := by
  obtain ⟨rest, rfl⟩ := h.exists_eq_cons
  exact List.cons_ne_nil '@' rest

theorem exists_eq_append (h : Spells spelled head) : ∃ front, spelled = front ++ ['{'] := by
  obtain ⟨opening, hopening, hhead⟩ := Option.bind_eq_some_iff.mp h
  obtain ⟨start, htext, _⟩ := Opening.exists_spelled_of_read? hopening
  obtain ⟨blanks, _, hafter, _⟩ := Head.exists_blanks_of_complete? hhead
  exact ⟨start ++ blanks, by rw [htext, hafter, List.append_assoc]⟩

end Spells

/-- An opening within a part that ends with the source or before a `}` has its `{` in that part,
if it has one. -/
theorem Head.scan?_of_complete? {part back body : Text} {opening : Opening} {head : Head}
    (hback : back = [] ∨ back.head? = some '}')
    (hread : Opening.read? (part ++ back) = some opening)
    (hsize : opening.size ≤ Text.utf8Size part)
    (hcomplete : Head.complete? opening = some (head, body)) :
    ∃ inside, body = inside ++ back ∧ Head.scan? part = some (head, inside) := by
  have hscan : Head.scan? (part ++ back) = some (head, body) := by
    rw [Head.scan?, hread]
    exact hcomplete
  obtain ⟨blanks, hblanks, hafter, rfl⟩ := Head.exists_blanks_of_complete? hcomplete
  -- The part takes in the `{`, since neither a blank nor the `{` stands where the part ends.
  have hends : opening.size + Text.utf8Size blanks + 1 ≤ Text.utf8Size part := by
    obtain ⟨start, htext, _⟩ := Opening.exists_spelled_of_read? hread
    have hstart : Text.utf8Size start = opening.size := by
      have hall := Opening.utf8Size_of_read? hread
      rw [htext, Text.utf8Size_append] at hall
      omega
    obtain ⟨middle, hpart, hmiddle⟩ :=
      Text.exists_middle_of_append_eq htext.symm (by omega)
    have hstretch : '}' ∉ blanks ++ ['{'] := by
      intro hmem
      rcases List.mem_append.mp hmem with hblank | hmark
      · exact absurd (hblanks '}' hblank) (by decide)
      · exact absurd hmark (by decide)
    have hbody : middle ++ back = blanks ++ ['{'] ++ body := by
      rw [← hmiddle, hafter]
      simp
    obtain ⟨more, rfl⟩ := Text.exists_eq_append_of_not_mem hback hstretch hbody
    have hmark : Text.utf8Size ['{'] = 1 := rfl
    rw [hpart, Text.utf8Size_append, Text.utf8Size_append, Text.utf8Size_append, hstart, hmark]
    omega
  obtain ⟨spelled, htext, hspells⟩ := Head.exists_spells_of_scan? hscan
  obtain ⟨inside, hpart, hbody⟩ :=
    Text.exists_middle_of_append_eq htext.symm (by rw [hspells.utf8Size]; exact hends)
  refine ⟨inside, hbody, ?_⟩
  rw [hpart]
  exact hspells.scan?_append inside

/-- By offsets, the head at a place is the head that the source goes on with. -/
theorem headAt?_append (front inside back : Text) :
    headAt? (front ++ inside ++ back) (Text.utf8Size front)
        (Text.utf8Size front + Text.utf8Size inside) =
      .ok ((Head.scan? inside).map fun (head, _) =>
        ⟨Text.utf8Size front, head, Text.utf8Size front + head.size⟩) := by
  have hstop : min (Text.utf8Size front + Text.utf8Size inside)
      (Text.utf8Size (front ++ inside ++ back)) =
        Text.utf8Size front + Text.utf8Size inside := by
    simp only [Text.utf8Size_append]
    omega
  unfold headAt? headSpan
  simp only [hstop]
  split
  · have hinside : inside = [] := Text.eq_nil_of_utf8Size_eq_zero (by omega)
    subst hinside
    rfl
  · rw [Text.slice?_append]
    simp only [Except.map, Option.bind_eq_bind, Option.bind_some]
    cases hscan : Head.scan? inside with
    | none => rfl
    | some pair => rfl

theorem exists_part_of_headAt? {source : Text} {start stop : Nat} {located : LocatedHead}
    (h : headAt? source start stop = .ok (some located)) :
    ∃ front inside back body, source = front ++ inside ++ back ∧ Text.utf8Size front = start ∧
      start + Text.utf8Size inside = min stop (Text.utf8Size source) ∧
      Head.scan? inside = some (located.head, body) ∧
      located.start = start ∧ located.bodyStart = start + located.head.size := by
  unfold headAt? headSpan at h
  simp only at h
  split at h
  · cases h
  · rename_i hstart
    cases hslice : Text.slice? source start (min stop (Text.utf8Size source)) with
    | none =>
        rw [hslice] at h
        cases h
    | some inside =>
        rw [hslice] at h
        simp only [Except.map, Except.ok.injEq, Option.bind_eq_bind, Option.bind_some] at h
        obtain ⟨⟨head, body⟩, hscan, hlocated⟩ := Option.bind_eq_some_iff.mp h
        cases hlocated
        obtain ⟨front, back, hsource, hfront, hinside⟩ := Text.eq_append_of_slice? hslice
        exact ⟨front, inside, back, body, hsource, hfront, by omega, hscan, rfl, rfl⟩

theorem spells_of_headAt? {spelled : Text} {located : LocatedHead}
    (h : headAt? spelled 0 (Text.utf8Size spelled) = .ok (some located))
    (hend : located.bodyStart = Text.utf8Size spelled) : Spells spelled located.head := by
  obtain ⟨front, inside, back, body, hspelled, hfront, hinside, hscan, -, hbody⟩ :=
    exists_part_of_headAt? h
  have hsize := congrArg Text.utf8Size hspelled
  have hhead := Head.utf8Size_of_scan? hscan
  rw [Text.utf8Size_append, Text.utf8Size_append] at hsize
  have hempty : front = [] := Text.eq_nil_of_utf8Size_eq_zero hfront
  have hback : back = [] := Text.eq_nil_of_utf8Size_eq_zero (by omega)
  have hrest : body = [] := Text.eq_nil_of_utf8Size_eq_zero (by omega)
  subst hempty hback hrest
  rw [hspelled, List.nil_append, List.append_nil]
  exact hscan

theorem exists_scan?_of_headAt? {source : Text} {start : Nat} {located : LocatedHead}
    (h : headAt? source start (Text.utf8Size source) = .ok (some located)) :
    ∃ front back body, source = front ++ back ∧ Text.utf8Size front = start ∧
      Head.scan? back = some (located.head, body) := by
  obtain ⟨front, inside, back, body, hsource, hfront, hinside, hscan, -⟩ :=
    exists_part_of_headAt? h
  have hsize := congrArg Text.utf8Size hsource
  rw [Text.utf8Size_append, Text.utf8Size_append] at hsize
  have hback : back = [] := Text.eq_nil_of_utf8Size_eq_zero (by omega)
  subst hback
  exact ⟨front, inside, body, by rw [hsource, List.append_nil], hfront, hscan⟩

end Inlay.Markup
