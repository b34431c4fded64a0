import Inlay.Proofs.Markup.Compile

namespace Inlay.Markup.State

theorem skipText_of_plain {state : State} {front tail back : Text}
    (h : state.Spans (front ++ tail) back) (hplain : '@' ∉ front)
    (hnext : tail = [] ∨ tail.head? = some '@') :
    state.skipText = state.advance front (tail ++ back) := by
  induction front generalizing state with
  | nil =>
      have hskip : state.skipText = state := by
        rcases hnext with rfl | hmark
        · exact skipText_of_atEnd h.atEnd
        · obtain ⟨more, rfl⟩ := List.head?_eq_some_iff.mp hmark
          exact skipText_of_mark h.rest
      have hrest : state.rest = tail ++ back := h.rest
      rw [hskip, advance_nil hrest]
  | cons c front ih =>
      simp only [List.mem_cons, not_or] at hplain
      have hspans : state.Spans ([c] ++ (front ++ tail)) back := h
      have hrest : state.rest = c :: (front ++ tail ++ back) := h.rest
      rw [skipText_of_other hrest h.offset_lt (Ne.symm hplain.1), ih hspans.advance hplain.2,
        advance_advance, List.singleton_append]

theorem step_of_plain {state : State} {span back : Text} (h : state.Spans span back)
    (hspan : span ≠ []) (hplain : '@' ∉ span) :
    state.step.2 = .next (state.advance span back) := by
  have hspans : state.Spans (span ++ []) back := by rwa [List.append_nil]
  have hskip : state.skipText = state.advance span back :=
    skipText_of_plain hspans hplain (Or.inl rfl)
  have hend : (state.advance span back).atEnd = true := hspans.advance.atEnd
  obtain ⟨c, more, rfl⟩ := List.exists_cons_of_ne_nil hspan
  rw [step, if_neg h.not_atEnd, hskip, if_pos hend]

theorem step_of_plain_mark {state : State} {front tail back : Text}
    (h : state.Spans (front ++ '@' :: tail) back) (hplain : '@' ∉ front) :
    state.step = (state.advance front ('@' :: tail ++ back)).step := by
  have hskip : state.skipText = state.advance front ('@' :: tail ++ back) :=
    skipText_of_plain h hplain (Or.inr rfl)
  have hmark : (state.advance front ('@' :: tail ++ back)).Spans ('@' :: tail) back := h.advance
  have hbegin : ¬ state.atEnd = true := by
    cases front with
    | nil => exact h.not_atEnd
    | cons c front => exact h.not_atEnd
  rw [step, if_neg hbegin, hskip, if_neg hmark.not_atEnd, step_of_mark hmark]

theorem keepMark_advance (state : State) (front tail back : Text) :
    (state.advance front ('@' :: tail ++ back)).keepMark =
      state.advance (front ++ ['@']) (tail ++ back) := by
  rw [← advance_advance state front ['@'] ('@' :: tail ++ back)]
  rfl

def outside (state : State) (frame : Frame) (frames : List Frame) : State where
  offset := state.stop + 1
  stop := frame.stop
  held := []
  rest := state.rest.drop 1
  siblings := frame.earlier ++ .element frame.tag frame.attributes state.nodes .nil
  frames := frames

/-- What a step can do at a level that has `span` left and `back` behind it. -/
inductive Turn (state : State) : Text → Text → Step → Prop where
  | finish {back : Text} (hframes : state.frames = []) : Turn state [] back (.done state.nodes)
  | leave {back : Text} {frame : Frame} {frames : List Frame}
      (hframes : state.frames = frame :: frames) :
      Turn state [] back (.next (state.outside frame frames))
  | text {span back : Text} (hspan : span ≠ []) (hplain : '@' ∉ span) :
      Turn state span back (.next (state.advance span back))
  | mark {front tail back : Text} (hplain : '@' ∉ front)
      (hscan : Head.scan? ('@' :: tail) = none) :
      Turn state (front ++ '@' :: tail) back
        (.next (state.advance (front ++ ['@']) (tail ++ back)))
  | enter {front spelled inside behind back : Text} {head : Head} (hplain : '@' ∉ front)
      (hspells : Spells spelled head) (hbalanced : Balanced inside) :
      Turn state (front ++ (spelled ++ (inside ++ '}' :: behind))) back
        (.next ((state.advance front (spelled ++ (inside ++ '}' :: behind) ++ back)).enter head
          (inside ++ '}' :: (behind ++ back))
          (state.offset + Text.utf8Size front + head.size + Text.utf8Size inside)))
  | fail {front spelled body : Text} {head : Head} (hplain : '@' ∉ front)
      (hspells : Spells spelled head) (hclose : closingBrace? 0 body = none) :
      Turn state (front ++ (spelled ++ body)) []
        (.failed (.unbalancedTag (state.offset + Text.utf8Size front) head.name))

theorem turn_of_mark {state : State} {front tail back : Text}
    (h : state.Spans (front ++ '@' :: tail) back) (hplain : '@' ∉ front) :
    state.Turn (front ++ '@' :: tail) back state.step.2 := by
  have hmark : (state.advance front ('@' :: tail ++ back)).Spans ('@' :: tail) back := h.advance
  rw [step_of_plain_mark h hplain]
  cases hscan : Head.scan? ('@' :: tail) with
  | none =>
      rw [step_of_mark hmark, stepAtMark_of_none hmark hscan, keepMark_advance]
      exact .mark hplain hscan
  | some pair =>
      obtain ⟨head, body⟩ := pair
      obtain ⟨spelled, htail, hspells⟩ := Head.exists_spells_of_scan? hscan
      rw [htail] at hmark ⊢
      rw [step_of_spells hmark hspells]
      cases hclose : closingBrace? 0 body with
      | none =>
          have hback : back = [] := hmark.back_eq_nil hspells hclose
          subst hback
          rw [List.append_nil body, closingBrace?_of_none hclose]
          exact .fail hplain hspells hclose
      | some close =>
          obtain ⟨inside, behind, rfl, hbalanced, -⟩ := split_of_closingBrace? hclose
          have hbody : inside ++ '}' :: behind ++ back = inside ++ '}' :: (behind ++ back) := by
            rw [List.append_assoc, List.cons_append]
          rw [hbody, closingBrace?_append hbalanced]
          exact .enter hplain hspells hbalanced

theorem turn_of_spans {state : State} {span back : Text} (h : state.Spans span back) :
    state.Turn span back state.step.2 := by
  cases hsplit : Text.splitFirst? '@' span with
  | some parts =>
      obtain ⟨front, tail⟩ := parts
      obtain ⟨rfl, hplain⟩ := Text.eq_append_of_splitFirst? hsplit
      exact turn_of_mark h hplain
  | none =>
      by_cases hspan : span = []
      · subst hspan
        rw [step_of_atEnd h.atEnd, leave]
        cases hframes : state.frames with
        | nil => exact .finish hframes
        | cons frame frames => exact .leave hframes
      · have hplain : '@' ∉ span := Text.splitFirst?_eq_none_iff.mp hsplit
        rw [step_of_plain h hspan hplain]
        exact .text hspan hplain

/-- The levels around a level that ends at `stop` with `back` behind it: each goes on behind the `}`
of the one inside it, and the outermost ends with the source. -/
inductive Around : Text → Nat → List Frame → Prop where
  | outermost (stop : Nat) : Around [] stop []
  | element {span back : Text} {stop : Nat} {frame : Frame} {frames : List Frame}
      (hstop : frame.stop = stop + 1 + Text.utf8Size span)
      (hclose : back = [] ∨ ∃ behind depth, back = '}' :: behind ∧ depthAfter? depth span = some 0)
      (haround : Around back frame.stop frames) :
      Around ('}' :: (span ++ back)) stop (frame :: frames)

/-- The source is what has become nodes or heads, the pending text, the span that is left at this
level, and what follows it. -/
structure Stands (source : Text) (state : State) (before span back : Text) : Prop where
  source_eq : source = before ++ (state.pending ++ (span ++ back))
  offset_eq : state.offset = Text.utf8Size before + Text.utf8Size state.pending
  spans : state.Spans span back
  around : Around back state.stop state.frames

theorem stands_initial (source : Text) : Stands source (initial source) [] source [] where
  source_eq := (List.append_nil source).symm
  offset_eq := rfl
  spans := spans_initial source
  around := .outermost _

namespace Stands

variable {source before : Text} {state : State}

theorem advance {front tail back : Text} (h : Stands source state before (front ++ tail) back) :
    Stands source (state.advance front (tail ++ back)) before tail back where
  source_eq := by
    rw [h.source_eq, pending_advance]
    simp
  offset_eq := by
    rw [pending_advance, Text.utf8Size_append, ← Nat.add_assoc, ← h.offset_eq]
    rfl
  spans := h.spans.advance
  around := h.around

theorem outside {back : Text} {frame : Frame} {frames : List Frame}
    (h : Stands source state before [] back) (hframes : state.frames = frame :: frames) :
    ∃ before' span' back',
      Stands source (state.outside frame frames) before' span' back' := by
  have hstop : state.stop = state.offset := h.spans.stop
  have haround := h.around
  rw [hframes] at haround
  cases haround with
  | @element span back _ _ _ hnext hclose haround =>
      have hrest : state.rest = '}' :: (span ++ back) := h.spans.rest
      have hmark : '}'.utf8Size = 1 := rfl
      refine ⟨before ++ (state.pending ++ ['}']), span, back, ?_⟩
      constructor
      · rw [h.source_eq]
        simp [State.outside, pending]
      · simp only [State.outside, pending, List.reverse_nil, Text.utf8Size_append,
          Text.utf8Size_cons, Text.utf8Size_nil, hstop, h.offset_eq]
        omega
      · exact ⟨by rw [State.outside, hrest]; rfl, hnext, hclose⟩
      · exact haround

theorem split_behind_head {spelled body back : Text} {head : Head}
    (h : Stands source state before (spelled ++ body) back) (hspells : Spells spelled head) :
    source = before ++ (state.pending ++ spelled) ++ (body ++ back) ∧
      Text.utf8Size (before ++ (state.pending ++ spelled)) = state.offset + head.size := by
  constructor
  · rw [h.source_eq]
    simp
  · rw [Text.utf8Size_append, Text.utf8Size_append, hspells.utf8Size, h.offset_eq, Nat.add_assoc]

theorem enter {spelled inside behind back : Text} {head : Head}
    (h : Stands source state before (spelled ++ (inside ++ '}' :: behind)) back)
    (hspells : Spells spelled head) (hbalanced : Balanced inside) :
    Stands source
      (state.enter head (inside ++ '}' :: (behind ++ back))
        (state.offset + head.size + Text.utf8Size inside))
      (before ++ (state.pending ++ spelled)) inside ('}' :: (behind ++ back)) where
  source_eq := by
    rw [(h.split_behind_head hspells).1]
    simp [State.enter, pending]
  offset_eq := (h.split_behind_head hspells).2.symm
  spans := spans_enter state head hbalanced (behind ++ back)
  around := by
    have hbehind := h.spans.behind hspells hbalanced .nil
    exact .element hbehind.stop hbehind.close h.around

/-- A step goes on in the same source, further on. -/
theorem of_step {span back : Text} {following : State} (h : Stands source state before span back)
    (hstep : state.step.2 = .next following) :
    state.offset < following.offset ∧
      ∃ before' span' back', Stands source following before' span' back' := by
  have hturn := turn_of_spans h.spans
  rw [hstep] at hturn
  cases hturn with
  | leave hframes =>
      have hstop : state.stop = state.offset := h.spans.stop
      refine ⟨?_, h.outside hframes⟩
      rw [State.outside, hstop]
      exact Nat.lt_succ_self _
  | text hspan hplain =>
      have hwhole : Stands source state before (span ++ []) back := by rwa [List.append_nil]
      refine ⟨?_, before, [], back, hwhole.advance⟩
      obtain ⟨c, more, rfl⟩ := List.exists_cons_of_ne_nil hspan
      rw [← show state.stop = (state.advance (c :: more) back).offset from h.spans.stop]
      exact h.spans.offset_lt
  | @mark front tail _ hplain hscan =>
      have hsplit : Stands source state before ((front ++ ['@']) ++ tail) back := by simpa using h
      have hmark : '@'.utf8Size = 1 := rfl
      refine ⟨?_, before, tail, back, hsplit.advance⟩
      simp only [State.advance, Text.utf8Size_append, Text.utf8Size_cons, Text.utf8Size_nil]
      omega
  | @enter front spelled inside behind _ head hplain hspells hbalanced =>
      have hsize := hspells.size_pos
      refine ⟨?_, _, _, _, h.advance.enter hspells hbalanced⟩
      simp only [State.enter, State.advance]
      omega

/-- A tag without a `}` is met outside of all elements only. -/
theorem frames_eq_nil_of_failed {span back : Text} {error : CompileError}
    (h : Stands source state before span back) (hstep : state.step.2 = .failed error) :
    state.frames = [] := by
  have hturn := turn_of_spans h.spans
  have haround := h.around
  rw [hstep] at hturn
  cases hturn with
  | fail hplain hspells hclose =>
      -- Nothing follows the level, but behind a level inside an element stands the `}` of that.
      cases hframes : state.frames with
      | nil => rfl
      | cons frame frames =>
          rw [hframes] at haround
          cases haround

end Stands

inductive Reaches : State → Nat → State → Prop where
  | refl (state : State) : Reaches state 0 state
  | next {state following last : State} {count : Nat} (hstep : state.step.2 = .next following)
      (hreach : Reaches following count last) : Reaches state (count + 1) last

def after? : Nat → State → Option State
  | 0, state => some state
  | count + 1, state =>
      match state.step.2 with
      | .next following => following.after? count
      | _ => none

theorem reaches_iff_after? {state last : State} {count : Nat} :
    state.Reaches count last ↔ state.after? count = some last := by
  constructor
  · intro h
    induction h with
    | refl state => rfl
    | next hstep hreach ih => simpa only [after?, hstep] using ih
  · intro h
    induction count generalizing state with
    | zero =>
        cases h
        exact .refl _
    | succ count ih =>
        cases hstep : state.step.2 with
        | next following =>
            simp only [after?, hstep] at h
            exact .next hstep (ih h)
        | done forest => simp [after?, hstep] at h
        | failed error => simp [after?, hstep] at h

instance (state last : State) (count : Nat) : Decidable (state.Reaches count last) :=
  decidable_of_iff (state.after? count = some last) reaches_iff_after?.symm

theorem Reaches.stands {source before span back : Text} {state last : State} {count : Nat}
    (hreach : state.Reaches count last) (h : Stands source state before span back) :
    state.offset + count ≤ last.offset ∧
      ∃ before' span' back', Stands source last before' span' back' := by
  induction hreach generalizing before span back with
  | refl state => exact ⟨Nat.le_refl _, before, span, back, h⟩
  | next hstep hreach ih =>
      obtain ⟨hoffset, before', span', back', hfollowing⟩ := h.of_step hstep
      obtain ⟨hcount, hlast⟩ := ih hfollowing
      exact ⟨by omega, hlast⟩

/-- Every run comes to a last step, and that gives the result. -/
theorem exists_last_of_run (state : State) :
    ∃ count last, state.Reaches count last ∧
      ((∃ forest, last.step.2 = .done forest ∧ state.run.result = .ok forest) ∨
        ∃ error, last.step.2 = .failed error ∧ state.run.result = .error error) := by
  cases hstep : state.step.2 with
  | done forest =>
      exact ⟨0, state, .refl state, Or.inl ⟨forest, hstep, result_run_of_done hstep⟩⟩
  | failed error =>
      exact ⟨0, state, .refl state, Or.inr ⟨error, hstep, result_run_of_failed hstep⟩⟩
  | next following =>
      have hless := remaining_lt_of_step hstep
      obtain ⟨count, last, hreach, hlast⟩ := exists_last_of_run following
      rw [← result_run_of_next hstep] at hlast
      exact ⟨count + 1, last, .next hstep hreach, hlast⟩
termination_by state.remaining

end Inlay.Markup.State
