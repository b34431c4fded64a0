import Inlay.Proofs.Markup.Walk

namespace Inlay.Markup

theorem exists_descend_of_depthAfter? {text : Text} {depth : Nat}
    (h : depthAfter? depth text = some 0) : ∃ forest, descend text = .ok forest := by
  induction reading text generalizing depth with
  | plain hfree => exact ⟨_, descend_of_headFree hfree⟩
  | unbalanced hfree hspells hclose =>
      obtain ⟨found, hfound⟩ := hspells.exists_closingBrace? h 0
      rw [hclose] at hfound
      cases hfound
  | element hfree hspells hbalanced _ _ ihInside ihBehind =>
      obtain ⟨between, hbody⟩ := hspells.exists_depthAfter?_body h
      rw [hbalanced.depthAfter?_behind] at hbody
      obtain ⟨children, hchildren⟩ := ihInside (balanced_iff_depthAfter?.mp hbalanced)
      obtain ⟨rest, hrest⟩ := ihBehind hbody
      exact ⟨_, descend_of_parts hfree hspells hbalanced hchildren hrest⟩

theorem exists_descend_of_balanced {text : Text} (h : Balanced text) :
    ∃ forest, descend text = .ok forest :=
  exists_descend_of_depthAfter? (balanced_iff_depthAfter?.mp h)

theorem descend_enclosed {spelled inside : Text} {head : Head} {forest : Forest}
    (hspells : Spells spelled head) (hbalanced : Balanced inside)
    (hinside : descend inside = .ok forest) :
    descend (spelled ++ inside ++ ['}']) =
      .ok (.element head.name head.attributes forest .nil) := by
  have hnone : HeadFree [] (spelled ++ (inside ++ ['}'])) := trivial
  rw [List.append_assoc]
  exact descend_of_parts hnone hspells hbalanced hinside descend_nil

/-- A source with balanced braces compiles, and behind any head it compiles to the same forest, as
the children of one element. -/
theorem exists_compile_of_balanced {source : Text} (h : Balanced source) :
    ∃ forest, compile source = .ok forest ∧ ∀ spelled located,
      headAt? spelled 0 (Text.utf8Size spelled) = .ok (some located) →
      located.bodyStart = Text.utf8Size spelled →
      compile (spelled ++ source ++ ['}']) =
        .ok (.element located.head.name located.head.attributes forest .nil) := by
  obtain ⟨forest, hforest⟩ := exists_descend_of_balanced h
  refine ⟨forest, compile_eq_of_descend hforest, ?_⟩
  intro spelled located hhead hend
  have hspells : Spells spelled located.head := spells_of_headAt? hhead hend
  exact compile_eq_of_descend (descend_enclosed hspells h hforest)

theorem exists_compile_of_braces_in_value :
    Balanced r#"a{@p(k="}{"){é@ }@q{}}"#.toList ∧ ∃ forest,
      compile r#"a{@p(k="}{"){é@ }@q{}}"#.toList = .ok forest ∧
      compile (r#"@h(x = "{", y) {"#.toList ++ r#"a{@p(k="}{"){é@ }@q{}}"#.toList ++ ['}']) =
        .ok (.element ['h'] ⟨[(['x'], ['{'])]⟩ forest .nil) := by
  have hbalanced : Balanced r#"a{@p(k="}{"){é@ }@q{}}"#.toList := by decide
  obtain ⟨forest, hforest, hnested⟩ := exists_compile_of_balanced hbalanced
  refine ⟨hbalanced, forest, hforest, ?_⟩
  exact hnested r#"@h(x = "{", y) {"#.toList ⟨0, ⟨['h'], ⟨[(['x'], ['{'])]⟩, 16⟩, 16⟩ (by decide)
    (by decide)

theorem split_of_descend_error {source : Text} {error : CompileError}
    (h : descend source = .error error) :
    ∃ front spelled body head forest, source = front ++ (spelled ++ body) ∧
      Spells spelled head ∧ closingBrace? 0 body = none ∧
      error = .unbalancedTag (Text.utf8Size front) head.name ∧ descend front = .ok forest := by
  induction reading source generalizing error with
  | plain hfree =>
      rw [descend_of_headFree hfree] at h
      cases h
  | @unbalanced front spelled body head hfree hspells hclose =>
      rw [descend_of_unbalanced hfree hspells hclose] at h
      cases h
      have hwhole : HeadFree front ([] ++ (spelled ++ body)) := hfree
      have hcut : HeadFree front [] := hwhole.of_append
      exact ⟨front, spelled, body, head, _, rfl, hspells, hclose, rfl, descend_of_headFree hcut⟩
  | @element front spelled inside behind head hfree hspells hbalanced _ _ _ ihBehind =>
      -- The body has balanced braces, so the error can only come from behind the element.
      obtain ⟨children, hchildren⟩ := exists_descend_of_balanced hbalanced
      cases hbehind : descend behind with
      | ok rest =>
          rw [descend_of_parts hfree hspells hbalanced hchildren hbehind] at h
          cases h
      | error cause =>
          obtain ⟨before, spelled', body, head', rest, rfl, hspells', hclose, rfl, hbefore⟩ :=
            ihBehind hbehind
          rw [descend_of_element hfree hspells hbalanced, hchildren, hbehind] at h
          cases h
          have hwhole : HeadFree front
              ((spelled ++ (inside ++ '}' :: before)) ++ (spelled' ++ body)) := by
            simpa using hfree
          have hcut : HeadFree front (spelled ++ (inside ++ '}' :: before)) := hwhole.of_append
          have hoffset : Text.utf8Size before +
              (Text.utf8Size front + head.size + Text.utf8Size inside + 1) =
                Text.utf8Size (front ++ (spelled ++ (inside ++ '}' :: before))) := by
            have hmark : '}'.utf8Size = 1 := rfl
            simp only [Text.utf8Size_append, Text.utf8Size_cons, hspells.utf8Size]
            omega
          refine ⟨front ++ (spelled ++ (inside ++ '}' :: before)), spelled', body, head', _, ?_,
            hspells', hclose, ?_, descend_of_parts hcut hspells hbalanced hchildren hbefore⟩
          · simp
          · rw [← hoffset]
            rfl

theorem exists_located_of_descend_error {source : Text} {error : CompileError}
    (h : descend source = .error error) :
    ∃ located front forest, error = .unbalancedTag located.start located.head.name ∧
      headAt? source located.start (Text.utf8Size source) = .ok (some located) ∧
      matchingBrace? source located.bodyStart (Text.utf8Size source) = .ok none ∧
      Text.slice? source 0 located.start = some front ∧ descend front = .ok forest := by
  obtain ⟨front, spelled, body, head, forest, rfl, hspells, hclose, rfl, hfront⟩ :=
    split_of_descend_error h
  have hhead := headAt?_append front (spelled ++ body) []
  rw [List.append_nil, ← Text.utf8Size_append, hspells.scan?_append] at hhead
  have hmatch := matchingBrace?_behind front spelled body
  rw [closingBrace?_of_none hclose, hspells.utf8Size] at hmatch
  have hslice := Text.slice?_append [] front (spelled ++ body)
  rw [List.nil_append, Text.utf8Size_nil, Nat.zero_add] at hslice
  exact ⟨⟨Text.utf8Size front, head, Text.utf8Size front + head.size⟩, front, forest, rfl, hhead,
    hmatch, hslice, hfront⟩

/-- The body of a head, once its `}` is found, is a balanced part of the source. -/
theorem exists_body_of_matchingBrace? {source : Text} {start stop close : Nat}
    {located : LocatedHead} (hhead : headAt? source start stop = .ok (some located))
    (hclose : matchingBrace? source located.bodyStart stop = .ok (some close)) :
    ∃ front inside back, source = front ++ inside ++ '}' :: back ∧ Balanced inside ∧
      Text.utf8Size front = located.bodyStart ∧ Text.utf8Size (front ++ inside) = close := by
  obtain ⟨front, span, back, body, rfl, hfront, hspan, hscan, -, hbody⟩ :=
    exists_part_of_headAt? hhead
  obtain ⟨spelled, rfl, hspells⟩ := Head.exists_spells_of_scan? hscan
  have hstop := le_of_matchingBrace? hclose
  rw [Nat.min_eq_left hstop, Text.utf8Size_append, hspells.utf8Size] at hspan
  have hstart : Text.utf8Size (front ++ spelled) = located.bodyStart := by
    rw [Text.utf8Size_append, hfront, hspells.utf8Size, hbody]
  have hend : Text.utf8Size (front ++ spelled) + Text.utf8Size body = stop := by
    rw [hstart, hbody]
    omega
  have hmatch := matchingBrace?_append (front ++ spelled) body back
  rw [hend, hstart, List.append_assoc front, hclose] at hmatch
  obtain ⟨inside, behind, rfl, hbalanced, hfound⟩ :=
    split_of_closingBrace? (Except.ok.inj hmatch).symm
  refine ⟨front ++ spelled, inside, behind ++ back, by simp, hbalanced, hstart, ?_⟩
  rw [Text.utf8Size_append, hstart, hfound]

theorem exists_matchingBrace?_inside {source : Text} {start stop close inner : Nat}
    {outer nested : LocatedHead} (houter : headAt? source start stop = .ok (some outer))
    (hclose : matchingBrace? source outer.bodyStart stop = .ok (some close))
    (hinner : outer.bodyStart ≤ inner) (hnested : headAt? source inner close = .ok (some nested)) :
    ∃ found, found < close ∧ matchingBrace? source nested.bodyStart close = .ok (some found) := by
  obtain ⟨front, inside, back, hsource, hbalanced, hfront, hend⟩ :=
    exists_body_of_matchingBrace? houter hclose
  obtain ⟨before, span, behind, body, hplace, hbefore, hspan, hscan, -, hbody⟩ :=
    exists_part_of_headAt? hnested
  obtain ⟨spelled, rfl, hspells⟩ := Head.exists_spells_of_scan? hscan
  have hsize : close ≤ Text.utf8Size source := by
    rw [hsource, Text.utf8Size_append, hend]
    exact Nat.le_add_right _ _
  rw [Nat.min_eq_left hsize] at hspan
  -- Both cuts end at the `}` of the outer tag, so the nested head lies in the balanced body.
  have hcuts : before ++ (spelled ++ body) = front ++ inside := by
    have hsame : Text.utf8Size (before ++ (spelled ++ body)) = Text.utf8Size (front ++ inside) := by
      rw [hend, Text.utf8Size_append, hbefore, hspan]
    exact (Text.append_inj_of_utf8Size (hplace.symm.trans hsource) hsame).1
  obtain ⟨middle, hmiddle, hinside⟩ :=
    Text.exists_middle_of_append_eq hcuts.symm (by rw [hfront, hbefore]; exact hinner)
  rw [hinside] at hbalanced
  obtain ⟨found, hfound⟩ :=
    hspells.exists_closingBrace? (balanced_iff_depthAfter?.mp hbalanced) nested.bodyStart
  have hmatch := matchingBrace?_append (before ++ spelled) body behind
  have hstart : Text.utf8Size (before ++ spelled) = nested.bodyStart := by
    rw [Text.utf8Size_append, hbefore, hspells.utf8Size, hbody]
  have hstop : nested.bodyStart + Text.utf8Size body = close := by
    rw [← hspan, hbody, Text.utf8Size_append, hspells.utf8Size, Nat.add_assoc]
  rw [hstart, hstop, hfound, List.append_assoc before, ← hplace] at hmatch
  exact ⟨found, lt_of_matchingBrace? hmatch, hmatch⟩

/-- An error names a tag that stands outside of all elements and has no `}` in all of the source,
and the source before that tag compiles. Inside an open element the walk cannot fail, since every
head in the body of a tag has its `}` in that body. -/
theorem unbalancedTag_of_compile_error (source : Text) :
    (∀ error, compile source = .error error →
      ∃ located front forest, error = .unbalancedTag located.start located.head.name ∧
        headAt? source located.start (Text.utf8Size source) = .ok (some located) ∧
        matchingBrace? source located.bodyStart (Text.utf8Size source) = .ok none ∧
        Text.slice? source 0 located.start = some front ∧ compile front = .ok forest) ∧
    (∀ count state error, (State.initial source).Reaches count state →
      state.step.2 = .failed error → state.frames = []) ∧
    ∀ start stop close inner outer nested, headAt? source start stop = .ok (some outer) →
      matchingBrace? source outer.bodyStart stop = .ok (some close) →
      outer.bodyStart ≤ inner → headAt? source inner close = .ok (some nested) →
      ∃ found, found < close ∧
        matchingBrace? source nested.bodyStart close = .ok (some found) := by
  refine ⟨?_, ?_, ?_⟩
  · intro error herror
    obtain ⟨located, front, forest, hnamed, hhead, hmatch, hslice, hfront⟩ :=
      exists_located_of_descend_error (descend_eq_of_compile herror)
    exact ⟨located, front, forest, hnamed, hhead, hmatch, hslice, compile_eq_of_descend hfront⟩
  · intro count state error hreach hfailed
    obtain ⟨-, before, span, back, hstands⟩ := hreach.stands (State.stands_initial source)
    exact hstands.frames_eq_nil_of_failed hfailed
  · intro start stop close inner outer nested houter hclose hinner hnested
    exact exists_matchingBrace?_inside houter hclose hinner hnested

theorem exists_unbalancedTag_behind_nested_tags :
    compile r#"é@a(k="}"){@b(k="{"){y}}} @c{@d{}"#.toList = .error (.unbalancedTag 27 ['c']) ∧
    (∃ located front forest,
      CompileError.unbalancedTag 27 ['c'] = .unbalancedTag located.start located.head.name ∧
      headAt? r#"é@a(k="}"){@b(k="{"){y}}} @c{@d{}"#.toList located.start 34 =
        .ok (some located) ∧
      matchingBrace? r#"é@a(k="}"){@b(k="{"){y}}} @c{@d{}"#.toList located.bodyStart 34 =
        .ok none ∧
      Text.slice? r#"é@a(k="}"){@b(k="{"){y}}} @c{@d{}"#.toList 0 located.start = some front ∧
      compile front = .ok forest) ∧
    (∃ state, (State.initial r#"é@a(k="}"){@b(k="{"){y}}} @c{@d{}"#.toList).Reaches 6 state ∧
      state.step.2 = .failed (.unbalancedTag 27 ['c']) ∧ state.frames = []) ∧
    ∃ found, found < 25 ∧
      matchingBrace? r#"é@a(k="}"){@b(k="{"){y}}} @c{@d{}"#.toList 22 25 = .ok (some found) := by
  obtain ⟨herror, hwalk, hnested⟩ :=
    unbalancedTag_of_compile_error r#"é@a(k="}"){@b(k="{"){y}}} @c{@d{}"#.toList
  have hcompile : compile r#"é@a(k="}"){@b(k="{"){y}}} @c{@d{}"#.toList =
      .error (.unbalancedTag 27 ['c']) := by
    decide +kernel
  let state : State :=
    { offset := 26, stop := 34, held := [], rest := r#" @c{@d{}"#.toList
      siblings := .text ['é'] (.element ['a'] ⟨[(['k'], ['}'])]⟩
        (.element ['b'] ⟨[(['k'], ['{'])]⟩ (.text ['y'] .nil) (.text ['}'] .nil)) .nil)
      frames := [] }
  have hreach : (State.initial r#"é@a(k="}"){@b(k="{"){y}}} @c{@d{}"#.toList).Reaches 6 state := by
    decide +kernel
  have hfailed : state.step.2 = .failed (.unbalancedTag 27 ['c']) := by decide
  refine ⟨hcompile, herror _ hcompile, ⟨state, hreach, hfailed, hwalk 6 state _ hreach hfailed⟩, ?_⟩
  exact hnested 2 34 25 12 ⟨2, ⟨['a'], ⟨[(['k'], ['}'])]⟩, 10⟩, 12⟩
    ⟨12, ⟨['b'], ⟨[(['k'], ['{'])]⟩, 10⟩, 22⟩ (by decide) (by decide) (by decide) (by decide)

end Inlay.Markup
