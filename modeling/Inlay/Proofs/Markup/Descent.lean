import Inlay.Dialect
import Inlay.Proofs.Forest
import Inlay.Proofs.Markup.Balance
import Inlay.Proofs.Markup.Spelling

namespace Inlay

def CompileError.shift (distance : Nat) : CompileError → CompileError
  | unbalancedTag offset tag => unbalancedTag (offset + distance) tag
  | error => error

@[simp] theorem CompileError.shift_zero (error : CompileError) : error.shift 0 = error := by
  cases error with
  | unbalancedTag offset tag => rfl
  | strayBlockClose line => rfl
  | unclosedBlock line selector => rfl

theorem CompileError.shift_shift (first second : Nat) (error : CompileError) :
    (error.shift first).shift second = error.shift (first + second) := by
  cases error with
  | unbalancedTag offset tag => simp only [shift, Nat.add_assoc]
  | strayBlockClose line => rfl
  | unclosedBlock line selector => rfl

namespace Markup

def firstHead? (text : Text) : Option LocatedHead :=
  (List.range (Text.utf8Size text)).findSome? fun offset =>
    (headAt? text offset (Text.utf8Size text)).toOption.join

def descend (text : Text) : Except CompileError Forest :=
  match firstHead? text with
  | none => .ok (Forest.ofText text)
  | some found =>
      match _h : matchingBrace? text found.bodyStart (Text.utf8Size text) with
      | .ok (some close) => do
          let children ← (descend (Text.part text found.bodyStart close)).mapError
            (CompileError.shift found.bodyStart)
          let rest ← (descend (Text.part text (close + 1) (Text.utf8Size text))).mapError
            (CompileError.shift (close + 1))
          return Forest.ofText (Text.part text 0 found.start) ++
            .element found.head.name found.head.attributes children rest
      | _ => .error (.unbalancedTag found.start found.head.name)
termination_by Text.utf8Size text
decreasing_by
  · have hclose := lt_of_matchingBrace? _h
    have hsize := Text.utf8Size_part_le text found.bodyStart close
    omega
  · have hclose := lt_of_matchingBrace? _h
    have hsize := Text.utf8Size_part_le text (close + 1) (Text.utf8Size text)
    omega

/-- No head begins in `front` when `back` follows it. -/
def HeadFree : Text → Text → Prop
  | [], _ => True
  | c :: front, back => Head.scan? (c :: (front ++ back)) = none ∧ HeadFree front back

instance HeadFree.decidable : (front back : Text) → Decidable (HeadFree front back)
  | [], _ => .isTrue trivial
  | c :: front, back =>
      have := HeadFree.decidable front back
      inferInstanceAs (Decidable (Head.scan? (c :: (front ++ back)) = none ∧ HeadFree front back))

theorem headFree_append {first second back : Text} :
    HeadFree (first ++ second) back ↔ HeadFree first (second ++ back) ∧ HeadFree second back := by
  induction first with
  | nil => simp [HeadFree]
  | cons c first ih =>
      simp only [List.cons_append, HeadFree, List.append_assoc]
      rw [ih, and_assoc]

theorem HeadFree.scan?_eq_none {front back first second : Text} (h : HeadFree front back)
    (htext : front ++ back = first ++ second)
    (hsize : Text.utf8Size first < Text.utf8Size front) : Head.scan? second = none := by
  obtain ⟨middle, hfront, hsecond⟩ :=
    Text.exists_middle_of_append_eq htext.symm (Nat.le_of_lt hsize)
  cases middle with
  | nil =>
      rw [hfront, List.append_nil] at hsize
      omega
  | cons c middle =>
      subst hfront
      rw [hsecond]
      exact (headFree_append.mp h).2.1

/-- Where the text behind a stretch is cut short, no new head begins in the stretch. -/
theorem HeadFree.of_append {front back more : Text} (h : HeadFree front (back ++ more)) :
    HeadFree front back := by
  induction front with
  | nil => trivial
  | cons c front ih =>
      obtain ⟨hscan, hfree⟩ := h
      refine ⟨?_, ih hfree⟩
      cases hcut : Head.scan? (c :: (front ++ back)) with
      | none => rfl
      | some pair =>
          have hlonger := Head.scan?_append_of_some hcut more
          rw [List.cons_append, List.append_assoc, hscan] at hlonger
          cases hlonger

theorem exists_head_or_headFree (text : Text) :
    HeadFree text [] ∨ ∃ front spelled head body, text = front ++ (spelled ++ body) ∧
      HeadFree front (spelled ++ body) ∧ Spells spelled head := by
  induction text with
  | nil => exact Or.inl trivial
  | cons c rest ih =>
      cases hscan : Head.scan? (c :: rest) with
      | some pair =>
          obtain ⟨head, body⟩ := pair
          obtain ⟨spelled, htext, hspells⟩ := Head.exists_spells_of_scan? hscan
          exact Or.inr ⟨[], spelled, head, body, htext, trivial, hspells⟩
      | none =>
          rcases ih with hfree | ⟨front, spelled, head, body, htext, hfree, hspells⟩
          · exact Or.inl ⟨by rw [List.append_nil]; exact hscan, hfree⟩
          · refine Or.inr ⟨c :: front, spelled, head, body, by rw [htext, List.cons_append], ?_,
              hspells⟩
            exact ⟨by rw [← htext]; exact hscan, hfree⟩

private theorem headAt?_of_headFree {front back : Text} (h : HeadFree front back) {offset : Nat}
    (hoffset : offset < Text.utf8Size front) :
    (headAt? (front ++ back) offset (Text.utf8Size (front ++ back))).toOption.join = none := by
  cases hhead : headAt? (front ++ back) offset (Text.utf8Size (front ++ back)) with
  | error error => rfl
  | ok located =>
      cases located with
      | none => rfl
      | some located =>
          obtain ⟨first, second, body, htext, hfirst, hscan⟩ := exists_scan?_of_headAt? hhead
          rw [h.scan?_eq_none htext (by omega)] at hscan
          cases hscan

theorem firstHead?_of_headFree {text : Text} (h : HeadFree text []) : firstHead? text = none := by
  unfold firstHead?
  rw [List.findSome?_eq_none_iff]
  intro offset hoffset
  have hhead := headAt?_of_headFree h (List.mem_range.mp hoffset)
  rwa [List.append_nil] at hhead

theorem firstHead?_of_spells {front spelled body : Text} {head : Head}
    (hfree : HeadFree front (spelled ++ body)) (hspells : Spells spelled head) :
    firstHead? (front ++ (spelled ++ body)) =
      some ⟨Text.utf8Size front, head, Text.utf8Size front + head.size⟩ := by
  have hpos : 0 < Text.utf8Size (spelled ++ body) := by
    have hlength := Text.length_le_utf8Size (spelled ++ body)
    have hspelled := List.length_pos_iff.mpr hspells.ne_nil
    rw [List.length_append] at hlength
    omega
  obtain ⟨more, hmore⟩ := Nat.exists_eq_succ_of_ne_zero (Nat.pos_iff_ne_zero.mp hpos)
  unfold firstHead?
  rw [List.findSome?_eq_some_iff]
  refine ⟨List.range (Text.utf8Size front), Text.utf8Size front,
    (List.range more).map (fun step => Text.utf8Size front + step.succ), ?_, ?_, ?_⟩
  · rw [Text.utf8Size_append front, hmore, List.range_add, List.range_succ_eq_map, List.map_cons,
      List.map_map]
    rfl
  · have hhead := headAt?_append front (spelled ++ body) []
    rw [List.append_nil, ← Text.utf8Size_append, hspells.scan?_append] at hhead
    rw [hhead]
    rfl
  · intro offset hoffset
    exact headAt?_of_headFree hfree (List.mem_range.mp hoffset)

theorem descend_of_headFree {text : Text} (h : HeadFree text []) :
    descend text = .ok (Forest.ofText text) := by
  rw [descend, firstHead?_of_headFree h]

theorem matchingBrace?_behind (front spelled body : Text) :
    matchingBrace? (front ++ (spelled ++ body)) (Text.utf8Size front + Text.utf8Size spelled)
        (Text.utf8Size (front ++ (spelled ++ body))) =
      .ok (closingBrace? (Text.utf8Size front + Text.utf8Size spelled) body) := by
  have hmatch := matchingBrace?_append (front ++ spelled) body []
  rw [List.append_nil, ← Text.utf8Size_append, List.append_assoc] at hmatch
  rwa [Text.utf8Size_append front] at hmatch

theorem descend_of_unbalanced {front spelled body : Text} {head : Head}
    (hfree : HeadFree front (spelled ++ body)) (hspells : Spells spelled head)
    (hclose : closingBrace? 0 body = none) :
    descend (front ++ (spelled ++ body)) =
      .error (.unbalancedTag (Text.utf8Size front) head.name) := by
  have hmatch := matchingBrace?_behind front spelled body
  rw [hspells.utf8Size, closingBrace?_of_none hclose] at hmatch
  rw [descend, firstHead?_of_spells hfree hspells]
  simp only
  split
  · rename_i close hfound
    rw [hmatch] at hfound
    cases hfound
  · rfl

theorem descend_of_element {front spelled inside behind : Text} {head : Head}
    (hfree : HeadFree front (spelled ++ (inside ++ '}' :: behind)))
    (hspells : Spells spelled head) (hinside : Balanced inside) :
    descend (front ++ (spelled ++ (inside ++ '}' :: behind))) = (do
      let children ← (descend inside).mapError
        (CompileError.shift (Text.utf8Size front + head.size))
      let rest ← (descend behind).mapError
        (CompileError.shift (Text.utf8Size front + head.size + Text.utf8Size inside + 1))
      return Forest.ofText front ++ .element head.name head.attributes children rest) := by
  have hmatch := matchingBrace?_behind front spelled (inside ++ '}' :: behind)
  rw [hspells.utf8Size, closingBrace?_append hinside] at hmatch
  have hfront : Text.part (front ++ (spelled ++ (inside ++ '}' :: behind))) 0
      (Text.utf8Size front) = front := by
    have hpart := Text.part_append [] front (spelled ++ (inside ++ '}' :: behind))
    simpa using hpart
  have hbody : Text.part (front ++ (spelled ++ (inside ++ '}' :: behind)))
      (Text.utf8Size front + head.size)
      (Text.utf8Size front + head.size + Text.utf8Size inside) = inside := by
    have hpart := Text.part_append (front ++ spelled) inside ('}' :: behind)
    simpa [hspells.utf8Size] using hpart
  have hrest : Text.part (front ++ (spelled ++ (inside ++ '}' :: behind)))
      (Text.utf8Size front + head.size + Text.utf8Size inside + 1)
      (Text.utf8Size (front ++ (spelled ++ (inside ++ '}' :: behind)))) = behind := by
    have hpart := Text.part_append (front ++ spelled ++ inside ++ ['}']) behind []
    have hmark : '}'.utf8Size = 1 := rfl
    simpa [hspells.utf8Size, hmark, Nat.add_assoc] using hpart
  rw [descend, firstHead?_of_spells hfree hspells]
  simp only
  split
  · rename_i close hfound
    rw [hmatch] at hfound
    cases hfound
    rw [hfront, hbody, hrest]
  · rename_i hfound
    exact absurd hmatch (hfound _)

theorem descend_of_parts {front spelled inside behind : Text} {head : Head}
    {children rest : Forest} (hfree : HeadFree front (spelled ++ (inside ++ '}' :: behind)))
    (hspells : Spells spelled head) (hbalanced : Balanced inside)
    (hinside : descend inside = .ok children) (hbehind : descend behind = .ok rest) :
    descend (front ++ (spelled ++ (inside ++ '}' :: behind))) =
      .ok (Forest.ofText front ++ .element head.name head.attributes children rest) := by
  rw [descend_of_element hfree hspells hbalanced, hinside, hbehind]
  rfl

/-! Heads in a text that closes levels. A head leaves one more level open, that of its body, and a
text that comes back to no open level has the `}` of each of its heads. -/

namespace Spells

variable {front spelled body : Text} {head : Head} {depth following : Nat}

theorem exists_depthAfter?_body (hspells : Spells spelled head)
    (h : depthAfter? depth (front ++ (spelled ++ body)) = some following) :
    ∃ between, depthAfter? (between + 1) body = some following := by
  obtain ⟨start, rfl⟩ := hspells.exists_eq_append
  rw [List.append_assoc, ← List.append_assoc, depthAfter?_append] at h
  obtain ⟨between, -, hbody⟩ := Option.bind_eq_some_iff.mp h
  exact ⟨between, hbody⟩

theorem exists_closingBrace? (hspells : Spells spelled head)
    (h : depthAfter? depth (front ++ (spelled ++ body)) = some 0) (offset : Nat) :
    ∃ found, closingBrace? offset body = some found := by
  obtain ⟨between, hbody⟩ := hspells.exists_depthAfter?_body h
  obtain ⟨inside, behind, rfl, hinside⟩ := split_of_depthAfter?_succ hbody
  exact ⟨_, closingBrace?_append hinside offset behind⟩

end Spells

inductive Reading : Text → Prop where
  | plain {text : Text} (hfree : HeadFree text []) : Reading text
  | unbalanced {front spelled body : Text} {head : Head}
      (hfree : HeadFree front (spelled ++ body)) (hspells : Spells spelled head)
      (hclose : closingBrace? 0 body = none) : Reading (front ++ (spelled ++ body))
  | element {front spelled inside behind : Text} {head : Head}
      (hfree : HeadFree front (spelled ++ (inside ++ '}' :: behind)))
      (hspells : Spells spelled head) (hbalanced : Balanced inside)
      (hinside : Reading inside) (hbehind : Reading behind) :
      Reading (front ++ (spelled ++ (inside ++ '}' :: behind)))

theorem reading (text : Text) : Reading text := by
  rcases exists_head_or_headFree text with hfree |
    ⟨front, spelled, head, body, htext, hfree, hspells⟩
  · exact .plain hfree
  · cases hclose : closingBrace? 0 body with
    | none =>
        rw [htext]
        exact .unbalanced hfree hspells hclose
    | some close =>
        obtain ⟨inside, behind, hbody, hbalanced, -⟩ := split_of_closingBrace? hclose
        subst hbody
        have hlength := congrArg List.length htext
        simp only [List.length_append, List.length_cons] at hlength
        rw [htext]
        exact .element hfree hspells hbalanced (reading inside) (reading behind)
termination_by text.length

/-- Text in which no head begins is joined to what follows it. -/
theorem descend_append {front back : Text} (h : HeadFree front back) :
    descend (front ++ back) =
      ((descend back).mapError (CompileError.shift (Text.utf8Size front))).map
        (Forest.joinText front) := by
  cases reading back with
  | plain hfree =>
      have hall : HeadFree (front ++ back) [] :=
        headFree_append.mpr ⟨by rwa [List.append_nil], hfree⟩
      rw [descend_of_headFree hall, descend_of_headFree hfree]
      exact congrArg Except.ok (Forest.joinText_ofText front back).symm
  | @unbalanced more spelled body head hfree hspells hclose =>
      have hall : HeadFree (front ++ more) (spelled ++ body) := headFree_append.mpr ⟨h, hfree⟩
      rw [← List.append_assoc, descend_of_unbalanced hall hspells hclose,
        descend_of_unbalanced hfree hspells hclose, Text.utf8Size_append, Nat.add_comm]
      rfl
  | @element more spelled inside behind head hfree hspells hbalanced =>
      have hall : HeadFree (front ++ more) (spelled ++ (inside ++ '}' :: behind)) :=
        headFree_append.mpr ⟨h, hfree⟩
      have hbody : Text.utf8Size (front ++ more) + head.size =
          Text.utf8Size more + head.size + Text.utf8Size front := by
        rw [Text.utf8Size_append]
        omega
      have hrest : Text.utf8Size (front ++ more) + head.size + Text.utf8Size inside + 1 =
          Text.utf8Size more + head.size + Text.utf8Size inside + 1 + Text.utf8Size front := by
        rw [hbody]
        omega
      rw [← List.append_assoc, descend_of_element hall hspells hbalanced,
        descend_of_element hfree hspells hbalanced, hrest, hbody]
      cases descend inside with
      | error error =>
          simp only [Except.mapError, bind, Except.bind, Except.map, CompileError.shift_shift]
      | ok children =>
          cases descend behind with
          | error error =>
              simp only [Except.mapError, bind, Except.bind, Except.map,
                CompileError.shift_shift]
          | ok rest =>
              simp only [Except.mapError, bind, Except.bind, Except.map, pure, Except.pure,
                Forest.joinText_ofText_append]

theorem cases_of_descend {source : Text} {forest : Forest} (h : descend source = .ok forest) :
    (HeadFree source [] ∧ forest = Forest.ofText source) ∨
      ∃ front spelled head inside behind children rest,
        source = front ++ (spelled ++ (inside ++ '}' :: behind)) ∧
        HeadFree front (spelled ++ (inside ++ '}' :: behind)) ∧ Spells spelled head ∧
        Balanced inside ∧ descend inside = .ok children ∧ descend behind = .ok rest ∧
        forest = Forest.ofText front ++ .element head.name head.attributes children rest := by
  cases reading source with
  | plain hfree =>
      rw [descend_of_headFree hfree] at h
      cases h
      exact Or.inl ⟨hfree, rfl⟩
  | unbalanced hfree hspells hclose =>
      rw [descend_of_unbalanced hfree hspells hclose] at h
      cases h
  | @element front spelled inside behind head hfree hspells hbalanced =>
      rw [descend_of_element hfree hspells hbalanced] at h
      cases hinside : descend inside with
      | error error =>
          rw [hinside] at h
          cases h
      | ok children =>
          cases hbehind : descend behind with
          | error error =>
              rw [hinside, hbehind] at h
              cases h
          | ok rest =>
              rw [hinside, hbehind] at h
              cases h
              exact Or.inr ⟨front, spelled, head, inside, behind, children, rest, rfl, hfree,
                hspells, hbalanced, hinside, hbehind, rfl⟩

theorem descend_nil : descend [] = .ok .nil :=
  descend_of_headFree trivial

theorem eq_nil_of_descend {source : Text} (h : descend source = .ok .nil) : source = [] := by
  rcases cases_of_descend h with ⟨-, hforest⟩ |
    ⟨front, spelled, head, inside, behind, children, rest, -, -, -, -, -, -, hforest⟩
  · cases source with
    | nil => rfl
    | cons c source => cases hforest
  · cases front <;> cases hforest

theorem exists_of_descend_text {source content : Text} {rest : Forest}
    (h : descend source = .ok (.text content rest)) :
    content ≠ [] ∧ rest.beginsWithText = false ∧ ∃ back, source = content ++ back ∧
      HeadFree content back ∧ descend back = .ok rest := by
  rcases cases_of_descend h with ⟨hfree, hforest⟩ |
    ⟨front, spelled, head, inside, behind, children, following, rfl, hfree, hspells, hbalanced,
      hinside, hbehind, hforest⟩
  · cases source with
    | nil => cases hforest
    | cons c source =>
        cases hforest
        exact ⟨by simp, rfl, [], by simp, hfree, descend_nil⟩
  · cases front with
    | nil => cases hforest
    | cons c front =>
        cases hforest
        refine ⟨by simp, rfl, spelled ++ (inside ++ '}' :: behind), rfl, hfree, ?_⟩
        have hnone : HeadFree [] (spelled ++ (inside ++ '}' :: behind)) := trivial
        exact descend_of_parts hnone hspells hbalanced hinside hbehind

theorem exists_of_descend_element {source tag : Text} {attributes : Attributes}
    {children rest : Forest} (h : descend source = .ok (.element tag attributes children rest)) :
    ∃ spelled inside behind size, source = spelled ++ (inside ++ '}' :: behind) ∧
      Spells spelled ⟨tag, attributes, size⟩ ∧ Balanced inside ∧
      descend inside = .ok children ∧ descend behind = .ok rest := by
  rcases cases_of_descend h with ⟨-, hforest⟩ |
    ⟨front, spelled, head, inside, behind, body, following, hsource, -, hspells, hbalanced,
      hinside, hbehind, hforest⟩
  · cases source <;> cases hforest
  · cases front with
    | nil =>
        cases hforest
        exact ⟨spelled, inside, behind, head.size, hsource, hspells, hbalanced, hinside, hbehind⟩
    | cons c front => cases hforest

end Markup

end Inlay
