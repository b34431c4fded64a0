import Inlay.Proofs.Markup.Nesting

namespace Inlay

structure Markup.OpenedTag where
  name : Text
  offset : Nat
  deriving DecidableEq, Repr

def Log.Record.openedTag? : Log.Record → Option Markup.OpenedTag
  | openedTag tag offset => some ⟨tag, offset⟩
  | _ => none

namespace Forest

@[simp] theorem tags_append (front back : Forest) :
    (front ++ back).tags = front.tags ++ back.tags := by
  induction front with
  | nil => rfl
  | text content rest ih => exact ih
  | element tag attributes children rest _ ih => simp [tags, ih]

@[simp] theorem tags_ofText (content : Text) : (ofText content).tags = [] := by
  cases content <;> rfl

end Forest

namespace Markup

def openedTags (source : Text) : List OpenedTag :=
  (records source).filterMap Log.Record.openedTag?

/-- The tags with an end in a text that begins at an offset, each before those in its body. -/
inductive Opens : Nat → Text → List OpenedTag → Prop where
  | plain {offset : Nat} {text : Text} (hfree : HeadFree text []) : Opens offset text []
  | unbalanced {offset : Nat} {front spelled body : Text} {head : Head}
      (hfree : HeadFree front (spelled ++ body)) (hspells : Spells spelled head)
      (hclose : closingBrace? 0 body = none) : Opens offset (front ++ (spelled ++ body)) []
  | element {offset : Nat} {front spelled inside behind : Text} {head : Head}
      {within after : List OpenedTag}
      (hfree : HeadFree front (spelled ++ (inside ++ '}' :: behind)))
      (hspells : Spells spelled head) (hbalanced : Balanced inside)
      (hinside : Opens (offset + Text.utf8Size front + head.size) inside within)
      (hbehind : Opens (offset + Text.utf8Size front + head.size + Text.utf8Size inside + 1)
        behind after) :
      Opens offset (front ++ (spelled ++ (inside ++ '}' :: behind)))
        (⟨head.name, offset + Text.utf8Size front⟩ :: (within ++ after))

theorem exists_opens (offset : Nat) (text : Text) : ∃ opened, Opens offset text opened := by
  induction reading text generalizing offset with
  | plain hfree => exact ⟨[], .plain hfree⟩
  | unbalanced hfree hspells hclose => exact ⟨[], .unbalanced hfree hspells hclose⟩
  | element hfree hspells hbalanced _ _ ihInside ihBehind =>
      obtain ⟨within, hinside⟩ := ihInside _
      obtain ⟨after, hbehind⟩ := ihBehind _
      exact ⟨_, .element hfree hspells hbalanced hinside hbehind⟩

theorem Spells.exists_eq_mark_name {spelled : Text} {head : Head} (h : Spells spelled head) :
    ∃ more, spelled = '@' :: (head.name ++ more) := by
  obtain ⟨opening, hread, hcomplete⟩ := Option.bind_eq_some_iff.mp h
  obtain ⟨blanks, -, -, rfl⟩ := Head.exists_blanks_of_complete? hcomplete
  obtain ⟨-, -, ⟨-, htext⟩ | ⟨inside, -, -, htext⟩⟩ := Opening.cases_of_read? hread
  · exact ⟨opening.after, htext⟩
  · exact ⟨'(' :: inside, htext⟩

namespace Opens

variable {offset : Nat} {text : Text} {opened : List OpenedTag}

theorem exists_mark (h : Opens offset text opened) {tag : OpenedTag} (htag : tag ∈ opened) :
    ∃ front behind, text = front ++ '@' :: (tag.name ++ behind) ∧
      tag.offset = offset + Text.utf8Size front := by
  induction h with
  | plain hfree => cases htag
  | unbalanced hfree hspells hclose => cases htag
  | @element offset front spelled inside behind head within after hfree hspells hbalanced _ _
      ihInside ihBehind =>
      rcases List.mem_cons.mp htag with rfl | htag
      · obtain ⟨more, rfl⟩ := hspells.exists_eq_mark_name
        exact ⟨front, more ++ (inside ++ '}' :: behind), by simp, rfl⟩
      · rcases List.mem_append.mp htag with htag | htag
        · obtain ⟨first, second, rfl, hoffset⟩ := ihInside htag
          refine ⟨front ++ (spelled ++ first), second ++ '}' :: behind, by simp, ?_⟩
          rw [hoffset, Text.utf8Size_append, Text.utf8Size_append, hspells.utf8Size]
          omega
        · obtain ⟨first, second, rfl, hoffset⟩ := ihBehind htag
          refine ⟨front ++ (spelled ++ (inside ++ '}' :: first)), second, by simp, ?_⟩
          have hmark : '}'.utf8Size = 1 := rfl
          simp only [hoffset, Text.utf8Size_append, Text.utf8Size_cons, hspells.utf8Size, hmark]
          omega

theorem offset_bounds (h : Opens offset text opened) {tag : OpenedTag} (htag : tag ∈ opened) :
    offset ≤ tag.offset ∧ tag.offset < offset + Text.utf8Size text := by
  obtain ⟨front, behind, rfl, hoffset⟩ := h.exists_mark htag
  have hmark := '@'.utf8Size_pos
  rw [Text.utf8Size_append, Text.utf8Size_cons]
  omega

theorem pairwise_offset (h : Opens offset text opened) :
    opened.Pairwise (fun first second => first.offset < second.offset) := by
  induction h with
  | plain hfree => exact .nil
  | unbalanced hfree hspells hclose => exact .nil
  | @element offset front spelled inside behind head within after hfree hspells hbalanced hinside
      hbehind ihInside ihBehind =>
      have hsize := hspells.size_pos
      rw [List.pairwise_cons, List.pairwise_append]
      refine ⟨?_, ihInside, ihBehind, ?_⟩
      · intro tag htag
        rcases List.mem_append.mp htag with htag | htag
        · have hstart := (hinside.offset_bounds htag).1
          simp only
          omega
        · have hstart := (hbehind.offset_bounds htag).1
          simp only
          omega
      · intro first hfirst second hsecond
        have hend := (hinside.offset_bounds hfirst).2
        have hstart := (hbehind.offset_bounds hsecond).1
        omega

theorem map_name (h : Opens offset text opened) {forest : Forest}
    (hforest : descend text = .ok forest) : opened.map OpenedTag.name = forest.tags := by
  induction h generalizing forest with
  | plain hfree =>
      rw [descend_of_headFree hfree] at hforest
      cases hforest
      exact (Forest.tags_ofText _).symm
  | unbalanced hfree hspells hclose =>
      rw [descend_of_unbalanced hfree hspells hclose] at hforest
      cases hforest
  | @element offset front spelled inside behind head within after hfree hspells hbalanced _ _
      ihInside ihBehind =>
      obtain ⟨children, hchildren⟩ := exists_descend_of_balanced hbalanced
      cases hrest : descend behind with
      | error error =>
          rw [descend_of_element hfree hspells hbalanced, hchildren, hrest] at hforest
          cases hforest
      | ok rest =>
          rw [descend_of_parts hfree hspells hbalanced hchildren hrest] at hforest
          cases hforest
          simp [Forest.tags, ihInside hchildren, ihBehind hrest]

theorem of_descend_error (h : Opens offset text opened) {distance : Nat} {name : Text}
    (herror : descend text = .error (.unbalancedTag distance name)) :
    ∃ front back, text = front ++ back ∧ Text.utf8Size front = distance ∧
      Opens offset front opened := by
  induction h generalizing distance name with
  | plain hfree =>
      rw [descend_of_headFree hfree] at herror
      cases herror
  | @unbalanced offset front spelled body head hfree hspells hclose =>
      rw [descend_of_unbalanced hfree hspells hclose] at herror
      cases herror
      have hwhole : HeadFree front ([] ++ (spelled ++ body)) := hfree
      exact ⟨front, spelled ++ body, rfl, rfl, .plain hwhole.of_append⟩
  | @element offset front spelled inside behind head within after hfree hspells hbalanced hinside
      _ _ ihBehind =>
      -- The body is balanced, so the tag without an end stands behind the element.
      obtain ⟨children, hchildren⟩ := exists_descend_of_balanced hbalanced
      cases hrest : descend behind with
      | ok rest =>
          rw [descend_of_parts hfree hspells hbalanced hchildren hrest] at herror
          cases herror
      | error cause =>
          rw [descend_of_element hfree hspells hbalanced, hchildren, hrest] at herror
          cases cause with
          | unbalancedTag moved tag =>
              cases herror
              obtain ⟨first, second, rfl, hfirst, hopens⟩ := ihBehind hrest
              have hwhole : HeadFree front
                  ((spelled ++ (inside ++ '}' :: first)) ++ second) := by
                simpa using hfree
              refine ⟨front ++ (spelled ++ (inside ++ '}' :: first)), second, by simp, ?_,
                .element hwhole.of_append hspells hbalanced hinside hopens⟩
              have hmark : '}'.utf8Size = 1 := rfl
              simp only [Text.utf8Size_append, Text.utf8Size_cons, hspells.utf8Size]
              omega
          | strayBlockClose line => cases herror
          | unclosedBlock line selector => cases herror

end Opens

theorem filterMap_segmentRecords (offset : Nat) (segments : List Text) :
    (segmentRecords offset segments).filterMap Log.Record.openedTag? = [] := by
  induction segments generalizing offset with
  | nil => rfl
  | cons raw segments ih =>
      have hsegment : ((Segment.read raw).records offset).filterMap Log.Record.openedTag? = [] := by
        cases Segment.read raw <;> rfl
      rw [segmentRecords, List.filterMap_append, hsegment, ih, List.append_nil]

namespace State

def opened (state : State) : List OpenedTag :=
  state.run.records.filterMap Log.Record.openedTag?

def entered (state : State) : List OpenedTag :=
  state.step.1.filterMap Log.Record.openedTag?

theorem opened_of_next {state following : State} (h : state.step.2 = .next following) :
    state.opened = state.entered ++ following.opened := by
  have hstep : state.step = (state.step.1, .next following) := Prod.ext rfl h
  rw [opened, run_of_next hstep, List.filterMap_append]
  rfl

theorem opened_of_failed {state : State} {error : CompileError}
    (h : state.step.2 = .failed error) : state.opened = state.entered := by
  have hstep : state.step = (state.step.1, .failed error) := Prod.ext rfl h
  rw [opened, run_of_failed hstep]
  rfl

theorem opened_of_done {state : State} {forest : Forest} (h : state.step.2 = .done forest) :
    state.opened = state.entered := by
  have hstep : state.step = (state.step.1, .done forest) := Prod.ext rfl h
  rw [opened, run_of_done hstep]
  rfl

theorem opened_congr {first second : State} (h : first.step = second.step) :
    first.opened = second.opened := by
  have hentered : first.entered = second.entered := by rw [entered, entered, h]
  cases hsecond : second.step.2 with
  | next following =>
      rw [opened_of_next hsecond, opened_of_next (h ▸ hsecond), hentered]
  | done forest => rw [opened_of_done hsecond, opened_of_done (h ▸ hsecond), hentered]
  | failed error => rw [opened_of_failed hsecond, opened_of_failed (h ▸ hsecond), hentered]

theorem entered_of_atEnd {state : State} (h : state.atEnd = true) : state.entered = [] := by
  rw [entered, step_of_atEnd h]
  rfl

/-- A tag is noted only where its body is entered. -/
theorem entered_of_frames {state following : State} (h : state.step.2 = .next following)
    (hframes : following.frames = state.frames) : state.entered = [] := by
  rw [entered]
  unfold step at h ⊢
  split
  · rfl
  · split
    · rfl
    · rename_i hend hskip
      rw [if_neg hend, if_neg hskip] at h
      unfold stepAtMark at h ⊢
      split
      · rfl
      · rename_i opening hopening
        simp only [hopening] at h
        simp only
        split
        · exact filterMap_segmentRecords _ _
        · rename_i head body hcomplete
          simp only [hcomplete] at h
          split
          · exact filterMap_segmentRecords _ _
          · rename_i close hclose
            rw [hclose] at h
            cases h
            exact absurd hframes (List.cons_ne_self _ _)

theorem entered_of_spells {state : State} {spelled body back : Text} {head : Head}
    (h : state.Spans (spelled ++ body) back) (hspells : Spells spelled head) :
    state.entered =
      match closingBrace? (state.offset + head.size) (body ++ back) with
      | none => []
      | some _ => [⟨head.name, state.offset⟩] := by
  obtain ⟨opening, hopening, hcomplete⟩ := opening?_of_spells h hspells
  have hattributes : (opening.records state.offset).filterMap Log.Record.openedTag? = [] :=
    filterMap_segmentRecords _ _
  obtain ⟨rest, rfl⟩ := hspells.exists_eq_cons
  rw [entered, step_of_mark h, stepAtMark]
  simp only [hopening, hcomplete]
  cases closingBrace? (state.offset + head.size) (body ++ back) with
  | none => exact hattributes
  | some close =>
      simp only [List.filterMap_append, hattributes]
      rfl

theorem opened_of_other {state : State} {c : Char} {span back : Text}
    (h : state.Spans (c :: span) back) (hc : c ≠ '@') :
    state.opened = (state.advance [c] (span ++ back)).opened := by
  have hskip : state.skipText = (state.advance [c] (span ++ back)).skipText :=
    skipText_of_other h.rest h.offset_lt hc
  by_cases hend : (state.advance [c] (span ++ back)).atEnd = true
  · have hstep : state.step.2 = .next (state.advance [c] (span ++ back)) := by
      rw [step, if_neg h.not_atEnd, hskip, skipText_of_atEnd hend, if_pos hend]
    rw [opened_of_next hstep, entered_of_frames hstep rfl, List.nil_append]
  · apply opened_congr
    rw [step, if_neg h.not_atEnd, hskip, step, if_neg hend]

theorem opened_of_keptMark {state : State} {span back : Text}
    (h : state.Spans ('@' :: span) back) (hscan : Head.scan? ('@' :: span) = none) :
    state.opened = (state.advance ['@'] (span ++ back)).opened := by
  have hstep : state.step.2 = .next (state.advance ['@'] (span ++ back)) := by
    rw [step_of_mark h, stepAtMark_of_none h hscan, keepMark, h.rest]
    rfl
  rw [opened_of_next hstep, entered_of_frames hstep rfl, List.nil_append]

theorem opened_advance {state : State} {front tail back : Text}
    (h : state.Spans (front ++ tail) back) (hfree : HeadFree front tail) :
    state.opened = (state.advance front (tail ++ back)).opened := by
  induction front generalizing state with
  | nil =>
      have hrest : state.rest = tail ++ back := h.rest
      rw [advance_nil hrest]
  | cons c front ih =>
      obtain ⟨hscan, hfree⟩ := hfree
      have hspans : state.Spans ([c] ++ (front ++ tail)) back := h
      have hstep : state.opened = (state.advance [c] (front ++ tail ++ back)).opened := by
        by_cases hc : c = '@'
        · subst hc
          exact opened_of_keptMark h hscan
        · exact opened_of_other h hc
      rw [hstep, ih hspans.advance hfree, advance_advance, List.singleton_append]

theorem opened_past_enter (state : State) (head : Head) (body rest : Text) (close : Nat)
    (children : Forest) :
    ((state.enter head body close).past ('}' :: rest) children).opened =
      (state.behind head children close rest).opened := by
  have hend : ((state.enter head body close).past ('}' :: rest) children).atEnd = true :=
    atEnd_iff.mpr (Or.inl (Nat.le_refl _))
  rw [opened_of_next (step_past_enter state head body rest close children), entered_of_atEnd hend,
    List.nil_append]

def openedPast (state : State) (back : Text) : Except CompileError Forest → List OpenedTag
  | .ok forest => (state.past back forest).opened
  | .error _ => []

theorem openedPast_behind (state : State) {front spelled inside behind : Text} {head : Head}
    {children : Forest} (hfree : HeadFree front (spelled ++ (inside ++ '}' :: behind)))
    (hspells : Spells spelled head) (hbalanced : Balanced inside)
    (hchildren : descend inside = .ok children) (start between back : Text) (close : Nat) :
    ((state.advance front start).behind head children close between).openedPast back
        (descend behind) =
      state.openedPast back (descend (front ++ (spelled ++ (inside ++ '}' :: behind)))) := by
  cases hrest : descend behind with
  | error error =>
      rw [descend_of_element hfree hspells hbalanced, hchildren, hrest]
      rfl
  | ok rest =>
      rw [descend_of_parts hfree hspells hbalanced hchildren hrest]
      exact congrArg opened (past_behind state front start head children rest close between back)

theorem opened_of_opens {state : State} {span back : Text} {offset : Nat} {tags : List OpenedTag}
    (hopens : Opens offset span tags) (hoffset : offset = state.offset)
    (h : state.Spans span back) :
    state.opened = tags ++ state.openedPast back (descend span) := by
  -- The state is free in the induction, since the body of an element is read from another one.
  induction hopens generalizing state back with
  | @plain offset span hfree =>
      have hspans : state.Spans (span ++ []) back := by rwa [List.append_nil]
      have hfirst : (state.advance span back).atEnd = true := hspans.advance.atEnd
      have hsecond : (state.past back (Forest.ofText span)).atEnd = true :=
        atEnd_iff.mpr (Or.inl (Nat.le_refl _))
      have hstep : (state.advance span back).step =
          (state.past back (Forest.ofText span)).step := by
        refine Prod.ext ?_ (step_advance_of_span h)
        rw [step_of_atEnd hfirst, step_of_atEnd hsecond]
      rw [opened_advance hspans hfree, descend_of_headFree hfree]
      exact opened_congr hstep
  | @unbalanced offset front spelled body head hfree hspells hclose =>
      have hback : back = [] := h.advance.back_eq_nil hspells hclose
      subst hback
      have hnone (position : Nat) : closingBrace? position (body ++ []) = none := by
        rw [List.append_nil]
        exact closingBrace?_of_none hclose position
      have hstep := step_of_spells h.advance hspells
      have hentered := entered_of_spells h.advance hspells
      rw [hnone] at hstep hentered
      rw [opened_advance h hfree, descend_of_unbalanced hfree hspells hclose,
        opened_of_failed hstep, hentered]
      rfl
  | @element offset front spelled inside behind head within after hfree hspells hbalanced _ _
      ihInside ihBehind =>
      let start := state.advance front (spelled ++ (inside ++ '}' :: behind) ++ back)
      let close := start.offset + head.size + Text.utf8Size inside
      have hstart : start.Spans (spelled ++ (inside ++ '}' :: behind)) back := h.advance
      have hplace : start.offset = offset + Text.utf8Size front := by
        rw [hoffset]
        rfl
      have hbrace : closingBrace? (start.offset + head.size)
          (inside ++ '}' :: behind ++ back) = some close := by
        rw [List.append_assoc, List.cons_append, closingBrace?_append hbalanced]
      -- The tag is noted on the way into the body; nothing is noted on the way out.
      have henter := step_of_spells hstart hspells
      have hentered := entered_of_spells hstart hspells
      rw [hbrace, List.append_assoc, List.cons_append] at henter
      rw [hbrace] at hentered
      obtain ⟨children, hchildren⟩ := exists_descend_of_balanced hbalanced
      have hinside := ihInside (by rw [← hplace]; rfl)
        (spans_enter start head hbalanced (behind ++ back))
      have hbehind := ihBehind (by rw [← hplace]; rfl)
        (hstart.behind hspells hbalanced children)
      calc state.opened
          = start.opened := opened_advance h hfree
        _ = ⟨head.name, start.offset⟩ ::
              (start.enter head (inside ++ '}' :: (behind ++ back)) close).opened := by
            rw [opened_of_next henter, hentered]
            rfl
        _ = ⟨head.name, start.offset⟩ ::
              (within ++ (start.behind head children close (behind ++ back)).opened) := by
            rw [hinside, hchildren, openedPast, opened_past_enter]
        _ = ⟨head.name, offset + Text.utf8Size front⟩ :: (within ++ after) ++
              state.openedPast back
                (descend (front ++ (spelled ++ (inside ++ '}' :: behind)))) := by
            rw [hbehind, openedPast_behind state hfree hspells hbalanced hchildren, hplace,
              List.cons_append, List.append_assoc]

end State

theorem openedTags_of_opens {source : Text} {tags : List OpenedTag} (h : Opens 0 source tags) :
    openedTags source = tags := by
  have hopened : openedTags source = (State.initial source).opened := rfl
  rw [hopened, State.opened_of_opens h rfl (State.spans_initial source)]
  cases descend source with
  | error error => exact List.append_nil tags
  | ok forest =>
      have hend : ((State.initial source).past [] forest).atEnd = true :=
        State.atEnd_iff.mpr (Or.inl (Nat.le_refl _))
      have hdone : ((State.initial source).past [] forest).opened = [] := by
        rw [State.opened_of_done (congrArg Prod.snd (State.step_of_atEnd hend)),
          State.entered_of_atEnd hend]
      rw [State.openedPast, hdone, List.append_nil]

/-- The tags that are noted stand in the source where they are said to stand, from left to right.
They are the tags of the forest in document order if the source compiles, and otherwise they are
those that are noted for the source before the tag without an end. -/
theorem openedTags_index (source : Text) :
    (openedTags source).Pairwise (fun first second => first.offset < second.offset) ∧
    (∀ tag ∈ openedTags source, ∃ front behind,
      source = front ++ '@' :: (tag.name ++ behind) ∧ Text.utf8Size front = tag.offset) ∧
    (∀ forest, compile source = .ok forest →
      (openedTags source).map OpenedTag.name = forest.tags) ∧
    ∀ offset name, compile source = .error (.unbalancedTag offset name) →
      (∀ tag ∈ openedTags source, tag.offset < offset) ∧
        ∃ front, Text.slice? source 0 offset = some front ∧
          openedTags front = openedTags source := by
  obtain ⟨tags, hopens⟩ := exists_opens 0 source
  rw [openedTags_of_opens hopens]
  refine ⟨hopens.pairwise_offset, ?_, ?_, ?_⟩
  · intro tag htag
    obtain ⟨front, behind, hsource, hoffset⟩ := hopens.exists_mark htag
    exact ⟨front, behind, hsource, by rw [hoffset, Nat.zero_add]⟩
  · intro forest hforest
    exact hopens.map_name (descend_eq_of_compile hforest)
  · intro offset name herror
    obtain ⟨front, back, rfl, rfl, hfront⟩ := hopens.of_descend_error (descend_eq_of_compile herror)
    have hslice := Text.slice?_append [] front back
    rw [List.nil_append, Text.utf8Size_nil, Nat.zero_add] at hslice
    refine ⟨?_, front, hslice, openedTags_of_opens hfront⟩
    intro tag htag
    have hbound := (hfront.offset_bounds htag).2
    rwa [Nat.zero_add] at hbound

theorem exists_openedTags_before_unbalanced :
    (∃ forest, compile r#"é@a(k="}",x){@b(y="{}"){@}@c{}} @f("#.toList = .ok forest ∧
      forest.tags = [['a'], ['b'], ['c']] ∧
      (openedTags r#"é@a(k="}",x){@b(y="{}"){@}@c{}} @f("#.toList).map OpenedTag.name =
        forest.tags) ∧
    compile r#"é@a(k="}",x){@b(y="{}"){@}@c{}} @f(@d{@e{})"#.toList =
      .error (.unbalancedTag 36 ['d']) ∧
    (∀ tag ∈ openedTags r#"é@a(k="}",x){@b(y="{}"){@}@c{}} @f(@d{@e{})"#.toList,
      tag.offset < 36) ∧
    ∃ front,
      Text.slice? r#"é@a(k="}",x){@b(y="{}"){@}@c{}} @f(@d{@e{})"#.toList 0 36 = some front ∧
        openedTags front = openedTags r#"é@a(k="}",x){@b(y="{}"){@}@c{}} @f(@d{@e{})"#.toList := by
  let forest : Forest :=
    .text ['é']
      (.element ['a'] ⟨[(['k'], ['}'])]⟩
        (.element ['b'] ⟨[(['y'], ['{', '}'])]⟩ (.text ['@'] .nil)
          (.element ['c'] ⟨[]⟩ .nil .nil))
        (.text " @f(".toList .nil))
  have hforest : compile r#"é@a(k="}",x){@b(y="{}"){@}@c{}} @f("#.toList = .ok forest := by
    decide +kernel
  have herror : compile r#"é@a(k="}",x){@b(y="{}"){@}@c{}} @f(@d{@e{})"#.toList =
      .error (.unbalancedTag 36 ['d']) := by
    decide +kernel
  obtain ⟨-, -, hnames, -⟩ := openedTags_index r#"é@a(k="}",x){@b(y="{}"){@}@c{}} @f("#.toList
  obtain ⟨-, -, -, hbefore⟩ :=
    openedTags_index r#"é@a(k="}",x){@b(y="{}"){@}@c{}} @f(@d{@e{})"#.toList
  exact ⟨⟨forest, hforest, by decide, hnames forest hforest⟩, herror, hbefore 36 ['d'] herror⟩

end Markup

end Inlay
