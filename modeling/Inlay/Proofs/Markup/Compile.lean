import Inlay.Markup.Compile
import Inlay.Proofs.Markup.Descent

namespace Inlay.Markup

namespace State

theorem result_run_of_next {state following : State} (h : state.step.2 = .next following) :
    state.run.result = following.run.result := by
  have hstep : state.step = (state.step.1, .next following) := Prod.ext rfl h
  rw [run_of_next hstep]

theorem result_run_of_failed {state : State} {error : CompileError}
    (h : state.step.2 = .failed error) : state.run.result = .error error := by
  have hstep : state.step = (state.step.1, .failed error) := Prod.ext rfl h
  rw [run_of_failed hstep]

theorem result_run_of_done {state : State} {forest : Forest} (h : state.step.2 = .done forest) :
    state.run.result = .ok forest := by
  have hstep : state.step = (state.step.1, .done forest) := Prod.ext rfl h
  rw [run_of_done hstep]

theorem result_run_congr {first second : State} (h : first.step.2 = second.step.2) :
    first.run.result = second.run.result := by
  cases hsecond : second.step.2 with
  | next following =>
      rw [result_run_of_next hsecond, result_run_of_next (h.trans hsecond)]
  | done forest => rw [result_run_of_done hsecond, result_run_of_done (h.trans hsecond)]
  | failed error => rw [result_run_of_failed hsecond, result_run_of_failed (h.trans hsecond)]

/-- A span is left at this level, and `back` of the source behind it. The level ends with the source
or at a `}` that closes what is open in the span. -/
structure Spans (state : State) (span back : Text) : Prop where
  rest : state.rest = span ++ back
  stop : state.stop = state.offset + Text.utf8Size span
  close : back = [] ∨ ∃ behind depth, back = '}' :: behind ∧ depthAfter? depth span = some 0

def advance (state : State) (front rest : Text) : State :=
  { state with
    offset := state.offset + Text.utf8Size front
    held := front.reverse ++ state.held
    rest := rest }

def behind (state : State) (head : Head) (children : Forest) (close : Nat) (rest : Text) : State :=
  { state with
    offset := close + 1
    held := []
    rest := rest
    siblings := state.nodes ++ .element head.name head.attributes children .nil }

/-- The state at the end of a level whose remaining span spells a forest. -/
def past (state : State) (back : Text) (forest : Forest) : State :=
  { state with
    offset := state.stop
    held := []
    rest := back
    siblings := state.siblings ++ Forest.joinText state.pending forest }

theorem advance_nil {state : State} {rest : Text} (h : state.rest = rest) :
    state.advance [] rest = state := by
  subst h
  rfl

theorem advance_advance (state : State) (first second between rest : Text) :
    (state.advance first between).advance second rest = state.advance (first ++ second) rest := by
  simp [advance, Nat.add_assoc]

@[simp] theorem pending_advance (state : State) (front rest : Text) :
    (state.advance front rest).pending = state.pending ++ front := by
  simp [advance, pending]

namespace Spans

variable {state : State}

theorem advance {front tail back : Text} (h : state.Spans (front ++ tail) back) :
    (state.advance front (tail ++ back)).Spans tail back where
  rest := rfl
  stop := by
    rw [State.advance, h.stop, Text.utf8Size_append, Nat.add_assoc]
  close := by
    rcases h.close with hback | ⟨behind, depth, hback, hdepth⟩
    · exact Or.inl hback
    · rw [depthAfter?_append] at hdepth
      obtain ⟨between, -, htail⟩ := Option.bind_eq_some_iff.mp hdepth
      exact Or.inr ⟨behind, between, hback, htail⟩

theorem head?_back {span back : Text} (h : state.Spans span back) :
    back = [] ∨ back.head? = some '}' := by
  rcases h.close with hback | ⟨behind, depth, rfl, -⟩
  · exact Or.inl hback
  · exact Or.inr rfl

theorem offset_lt {c : Char} {span back : Text} (h : state.Spans (c :: span) back) :
    state.offset < state.stop := by
  have hc := c.utf8Size_pos
  rw [h.stop, Text.utf8Size_cons]
  omega

theorem not_atEnd {c : Char} {span back : Text} (h : state.Spans (c :: span) back) :
    ¬ state.atEnd = true := by
  rw [atEnd_iff, h.rest]
  have hoffset := h.offset_lt
  simp only [List.cons_append, reduceCtorEq, or_false]
  omega

theorem atEnd {back : Text} (h : state.Spans [] back) : state.atEnd = true := by
  rw [atEnd_iff, h.stop]
  exact Or.inl (Nat.le_refl _)

end Spans

/-! Text in front of the next head. The walk over it takes one step for each stretch without an `@`
and one for each `@`, but it comes to the same to take the characters one by one. -/

theorem skipText_of_other {state : State} {c : Char} {rest : Text} (hrest : state.rest = c :: rest)
    (hoffset : state.offset < state.stop) (hc : c ≠ '@') :
    state.skipText = (state.advance [c] rest).skipText := by
  have hgo : ¬ (state.stop ≤ state.offset ∨ c = '@') := by
    rintro (hstop | hmark)
    · omega
    · exact hc hmark
  simp only [skipText, hrest, takeText, if_neg hgo, advance, Text.utf8Size_cons, Text.utf8Size_nil,
    Nat.add_zero, List.reverse_singleton, List.singleton_append]

theorem skipText_of_mark {state : State} {rest : Text} (hrest : state.rest = '@' :: rest) :
    state.skipText = state := by
  cases state
  simp only at hrest
  subst hrest
  simp [skipText, takeText]

theorem skipText_of_atEnd {state : State} (h : state.atEnd = true) : state.skipText = state := by
  rw [atEnd_iff] at h
  cases state with
  | mk offset stop held rest siblings frames =>
      cases rest with
      | nil => rfl
      | cons c rest =>
          simp only [reduceCtorEq, or_false] at h
          simp [skipText, takeText, h]

theorem step_of_mark {state : State} {span back : Text} (h : state.Spans ('@' :: span) back) :
    state.step = state.stepAtMark := by
  have hskip : state.skipText = state := skipText_of_mark h.rest
  rw [step, hskip, if_neg h.not_atEnd, if_neg h.not_atEnd]

theorem step_of_atEnd {state : State} (h : state.atEnd = true) :
    state.step = ([], state.leave) := by
  rw [step, if_pos h]

theorem result_run_of_other {state : State} {c : Char} {span back : Text}
    (h : state.Spans (c :: span) back) (hc : c ≠ '@') :
    state.run.result = (state.advance [c] (span ++ back)).run.result := by
  have hskip : state.skipText = (state.advance [c] (span ++ back)).skipText :=
    skipText_of_other h.rest h.offset_lt hc
  by_cases hend : (state.advance [c] (span ++ back)).atEnd = true
  · apply result_run_of_next
    rw [step, if_neg h.not_atEnd, hskip, skipText_of_atEnd hend, if_pos hend]
  · apply result_run_congr
    rw [step, if_neg h.not_atEnd, hskip, step, if_neg hend]

theorem stepAtMark_of_none {state : State} {span back : Text} (h : state.Spans span back)
    (hscan : Head.scan? span = none) : state.stepAtMark.2 = .next state.keepMark := by
  unfold stepAtMark
  split
  · rfl
  · rename_i opening hopening
    simp only
    split
    · rfl
    · rename_i head body hcomplete
      obtain ⟨hread, hsize⟩ := Option.filter_eq_some_iff.mp hopening
      rw [h.rest] at hread
      simp only [h.stop, decide_eq_true_eq] at hsize
      obtain ⟨inside, -, hhead⟩ :=
        Head.scan?_of_complete? h.head?_back hread (by omega) hcomplete
      rw [hscan] at hhead
      cases hhead

theorem result_run_of_keptMark {state : State} {span back : Text}
    (h : state.Spans ('@' :: span) back) (hscan : Head.scan? ('@' :: span) = none) :
    state.run.result = (state.advance ['@'] (span ++ back)).run.result := by
  apply result_run_of_next
  rw [step_of_mark h, stepAtMark_of_none h hscan, keepMark, h.rest]
  rfl

theorem result_run_advance {state : State} {front tail back : Text}
    (h : state.Spans (front ++ tail) back) (hfree : HeadFree front tail) :
    state.run.result = (state.advance front (tail ++ back)).run.result := by
  induction front generalizing state with
  | nil =>
      have hrest : state.rest = tail ++ back := h.rest
      rw [advance_nil hrest]
  | cons c front ih =>
      obtain ⟨hscan, hfree⟩ := hfree
      have hspans : state.Spans ([c] ++ (front ++ tail)) back := h
      have hstep : state.run.result =
          (state.advance [c] (front ++ tail ++ back)).run.result := by
        by_cases hc : c = '@'
        · subst hc
          exact result_run_of_keptMark h hscan
        · exact result_run_of_other h hc
      rw [hstep, ih hspans.advance hfree, advance_advance, List.singleton_append]

theorem opening?_of_spells {state : State} {spelled body back : Text} {head : Head}
    (h : state.Spans (spelled ++ body) back) (hspells : Spells spelled head) :
    ∃ opening, state.opening? = some opening ∧
      Head.complete? opening = some (head, body ++ back) := by
  have hscan : Head.scan? state.rest = some (head, body ++ back) := by
    rw [h.rest, List.append_assoc]
    exact hspells.scan?_append (body ++ back)
  obtain ⟨opening, hread, hcomplete⟩ := Option.bind_eq_some_iff.mp hscan
  refine ⟨opening, ?_, hcomplete⟩
  obtain ⟨blanks, -, -, hhead⟩ := Head.exists_blanks_of_complete? hcomplete
  have hsize : opening.size ≤ Text.utf8Size spelled := by
    rw [hspells.utf8Size, hhead]
    simp only
    omega
  rw [opening?, hread, Option.filter_some, if_pos]
  rw [h.stop, Text.utf8Size_append, decide_eq_true_eq]
  omega

theorem step_of_spells {state : State} {spelled body back : Text} {head : Head}
    (h : state.Spans (spelled ++ body) back) (hspells : Spells spelled head) :
    state.step.2 =
      match closingBrace? (state.offset + head.size) (body ++ back) with
      | none => .failed (.unbalancedTag state.offset head.name)
      | some close => .next (state.enter head (body ++ back) close) := by
  obtain ⟨opening, hopening, hcomplete⟩ := opening?_of_spells h hspells
  obtain ⟨rest, rfl⟩ := hspells.exists_eq_cons
  rw [step_of_mark h, stepAtMark]
  simp only [hopening, hcomplete]
  cases closingBrace? (state.offset + head.size) (body ++ back) with
  | none => rfl
  | some close => rfl

/-- Inside an open element, a head stands inside at least one level, and its body one deeper. -/
theorem Spans.depth_body {state : State} {spelled body back : Text} {head : Head}
    (h : state.Spans (spelled ++ body) back) (hspells : Spells spelled head) :
    back = [] ∨ ∃ rest depth, back = '}' :: rest ∧ depthAfter? (depth + 1) body = some 0 := by
  rcases h.close with hempty | ⟨rest, depth, hback, hdepth⟩
  · exact Or.inl hempty
  · have hwhole : depthAfter? depth ([] ++ (spelled ++ body)) = some 0 := hdepth
    obtain ⟨between, hbody⟩ := hspells.exists_depthAfter?_body hwhole
    exact Or.inr ⟨rest, between, hback, hbody⟩

theorem Spans.back_eq_nil {state : State} {spelled body back : Text} {head : Head}
    (h : state.Spans (spelled ++ body) back) (hspells : Spells spelled head)
    (hclose : closingBrace? 0 body = none) : back = [] := by
  rcases h.close with hempty | ⟨rest, depth, hback, hdepth⟩
  · exact hempty
  · -- The level around the head is left in its body, so the head's own level is left there too.
    have hwhole : depthAfter? depth ([] ++ (spelled ++ body)) = some 0 := hdepth
    obtain ⟨found, hfound⟩ := hspells.exists_closingBrace? hwhole 0
    rw [hclose] at hfound
    cases hfound

theorem spans_enter (state : State) (head : Head) {inside : Text} (hinside : Balanced inside)
    (rest : Text) :
    (state.enter head (inside ++ '}' :: rest)
      (state.offset + head.size + Text.utf8Size inside)).Spans inside ('}' :: rest) where
  rest := rfl
  stop := rfl
  close := Or.inr ⟨rest, 0, rfl, balanced_iff_depthAfter?.mp hinside⟩

theorem Spans.behind {state : State} {spelled inside behind back : Text} {head : Head}
    (h : state.Spans (spelled ++ (inside ++ '}' :: behind)) back) (hspells : Spells spelled head)
    (hinside : Balanced inside) (children : Forest) :
    (state.behind head children (state.offset + head.size + Text.utf8Size inside)
      (behind ++ back)).Spans behind back where
  rest := rfl
  stop := by
    have hmark : '}'.utf8Size = 1 := rfl
    simp only [State.behind, h.stop, Text.utf8Size_append, Text.utf8Size_cons, hspells.utf8Size]
    omega
  close := by
    rcases h.depth_body hspells with hempty | ⟨rest, depth, hback, hbody⟩
    · exact Or.inl hempty
    · rw [hinside.depthAfter?_behind] at hbody
      exact Or.inr ⟨rest, depth, hback, hbody⟩

theorem step_past_enter (state : State) (head : Head) (body rest : Text) (close : Nat)
    (children : Forest) :
    ((state.enter head body close).past ('}' :: rest) children).step.2 =
      .next (state.behind head children close rest) := by
  have hend : ((state.enter head body close).past ('}' :: rest) children).atEnd = true :=
    atEnd_iff.mpr (Or.inl (Nat.le_refl _))
  rw [step_of_atEnd hend]
  simp [leave, past, enter, behind, nodes, pending]

def outcome (state : State) (back : Text) : Except CompileError Forest → Except CompileError Forest
  | .ok forest => (state.past back forest).run.result
  | .error error => .error (error.shift state.offset)

theorem step_advance_of_span {state : State} {span back : Text} (h : state.Spans span back) :
    (state.advance span back).step.2 = (state.past back (Forest.ofText span)).step.2 := by
  have hspans : state.Spans (span ++ []) back := by rwa [List.append_nil]
  have hend : (state.past back (Forest.ofText span)).atEnd = true :=
    atEnd_iff.mpr (Or.inl (Nat.le_refl _))
  have hnodes : (state.advance span back).nodes =
      (state.past back (Forest.ofText span)).nodes := by
    rw [nodes, pending_advance]
    simp [nodes, past, advance, pending, Forest.joinText_ofText]
  have hfirst : (state.advance span back).atEnd = true := hspans.advance.atEnd
  rw [step_of_atEnd hfirst, step_of_atEnd hend]
  simp only [leave, hnodes]
  rfl

theorem past_behind (state : State) (front spelled : Text) (head : Head) (children rest : Forest)
    (close : Nat) (behind back : Text) :
    ((state.advance front spelled).behind head children close behind).past back rest =
      state.past back
        (Forest.ofText front ++ .element head.name head.attributes children rest) := by
  have hsiblings : (state.advance front spelled).nodes ++
      .element head.name head.attributes children .nil ++ rest =
        state.siblings ++ Forest.joinText state.pending
          (Forest.ofText front ++ .element head.name head.attributes children rest) := by
    rw [Forest.joinText_ofText_append, nodes, pending_advance]
    simp [advance, Forest.append_assoc]
  simp only [past, State.behind, pending, List.reverse_nil, Forest.joinText_empty, hsiblings]
  rfl

theorem result_run_of_spans {state : State} {span back : Text} (h : state.Spans span back) :
    state.run.result = state.outcome back (descend span) := by
  induction reading span generalizing state back with
  | @plain span hfree =>
      have hspans : state.Spans (span ++ []) back := by rwa [List.append_nil]
      rw [result_run_advance hspans hfree, descend_of_headFree hfree]
      exact result_run_congr (step_advance_of_span h)
  | @unbalanced front spelled body head hfree hspells hclose =>
      have hback : back = [] := h.advance.back_eq_nil hspells hclose
      subst hback
      have hnone (offset : Nat) : closingBrace? offset (body ++ []) = none := by
        rw [List.append_nil]
        exact closingBrace?_of_none hclose offset
      rw [result_run_advance h hfree, descend_of_unbalanced hfree hspells hclose]
      apply result_run_of_failed
      rw [step_of_spells h.advance hspells, hnone]
      simp only [advance, CompileError.shift, Nat.add_comm]
  | @element front spelled inside behind head hfree hspells hbalanced _ _ ihInside ihBehind =>
      let start := state.advance front (spelled ++ (inside ++ '}' :: behind) ++ back)
      let close := start.offset + head.size + Text.utf8Size inside
      have hstart : start.Spans (spelled ++ (inside ++ '}' :: behind)) back := h.advance
      -- Into the body, through it, and behind its `}`.
      have henter : start.step.2 =
          .next (start.enter head (inside ++ '}' :: (behind ++ back)) close) := by
        rw [step_of_spells hstart hspells, List.append_assoc, List.cons_append,
          closingBrace?_append hbalanced]
      have hbody := ihInside (spans_enter start head hbalanced (behind ++ back))
      have hrest (children : Forest) := ihBehind (hstart.behind hspells hbalanced children)
      rw [result_run_advance h hfree, result_run_of_next henter, hbody,
        descend_of_element hfree hspells hbalanced]
      cases descend inside with
      | error error =>
          simp only [outcome, Except.mapError, bind, Except.bind, CompileError.shift_shift]
          have hoffset : start.offset + head.size =
              Text.utf8Size front + head.size + state.offset := by
            simp only [start, advance]
            omega
          rw [← hoffset]
          rfl
      | ok children =>
          have hleave := result_run_of_next
            (step_past_enter start head (inside ++ '}' :: (behind ++ back)) (behind ++ back) close
              children)
          refine Eq.trans hleave (Eq.trans (hrest children) ?_)
          cases descend behind with
          | error error =>
              simp only [outcome, Except.mapError, bind, Except.bind, CompileError.shift_shift]
              have hoffset : close + 1 = Text.utf8Size front + head.size +
                  Text.utf8Size inside + 1 + state.offset := by
                simp only [close, start, advance]
                omega
              rw [← hoffset]
              rfl
          | ok rest =>
              simp only [outcome, Except.mapError, bind, Except.bind, pure, Except.pure]
              rw [← past_behind]

theorem spans_initial (source : Text) : (initial source).Spans source [] where
  rest := (List.append_nil source).symm
  stop := (Nat.zero_add _).symm
  close := Or.inl rfl

theorem result_run_initial (source : Text) : (initial source).run.result = descend source := by
  rw [result_run_of_spans (spans_initial source)]
  cases descend source with
  | error error => exact congrArg Except.error error.shift_zero
  | ok forest =>
      apply result_run_of_done
      rw [step_of_atEnd (atEnd_iff.mpr (Or.inl (Nat.le_refl _)))]
      simp [leave, past, initial, nodes, pending]

end State

theorem compile_eq_of_descend {source : Text} {result : Except CompileError Forest}
    (h : descend source = result) : compile source = result := by
  rw [← h]
  exact State.result_run_initial source

theorem descend_eq_of_compile {source : Text} {result : Except CompileError Forest}
    (h : compile source = result) : descend source = result := by
  rw [← State.result_run_initial]
  exact h

/-- The compiler, which walks a source once and keeps the open elements on a stack, computes what
recursive descent computes on separate texts, errors included. -/
theorem compile_eq_descend (source : Text) : compile source = descend source :=
  State.result_run_initial source

end Inlay.Markup
