import Inlay.Proofs.Markup.Walk

namespace Inlay.Markup

/-- The part of a source between two offsets, which must be in order and cut no character. -/
def cut (source : Text) (start stop : Nat) : Except OffsetError Text :=
  if start ≤ stop ∧ stop ≤ Text.utf8Size source then
    match Text.slice? source start stop with
    | some inside => .ok inside
    | none => .error .insideCharacter
  else
    .error .outOfRange

theorem cut_append (front inside back : Text) :
    cut (front ++ inside ++ back) (Text.utf8Size front)
      (Text.utf8Size front + Text.utf8Size inside) = .ok inside := by
  rw [cut, if_pos (by simp), Text.slice?_append]

namespace State

def readPending (source : Text) (state : State) : Except OffsetError State := do
  let text ← cut source state.textStart state.offset
  return { state with held := text.reverse }

def stepAtMarkIn (source : Text) (state : State) : Except OffsetError Step := do
  match ← headAt? source state.offset state.stop with
  | none => return .next state.keepMark
  | some located =>
      match ← matchingBrace? source located.bodyStart state.stop with
      | none => return .failed (.unbalancedTag located.start located.head.name)
      | some close =>
          let flushed ← state.readPending source
          let body ← cut source located.bodyStart (Text.utf8Size source)
          return .next (flushed.enter located.head body close)

/-- A step that finds all it needs by offsets into the source, or the reason why the source has no
such part. -/
def stepIn (source : Text) (state : State) : Except OffsetError Step := do
  if state.stop ≤ state.offset then
    let flushed ← state.readPending source
    return flushed.leave
  else
    let span ← cut source state.offset state.stop
    let back ← cut source state.stop (Text.utf8Size source)
    match Text.splitFirst? '@' span with
    | none => return .next (state.advance span back)
    | some (front, tail) => (state.advance front ('@' :: tail ++ back)).stepAtMarkIn source

namespace Stands

variable {source before span back : Text} {state : State}

theorem stop_eq (h : Stands source state before span back) :
    state.stop = Text.utf8Size (before ++ state.pending) + Text.utf8Size span := by
  rw [h.spans.stop, h.offset_eq, Text.utf8Size_append]

theorem textStart_eq (h : Stands source state before span back) :
    state.textStart = Text.utf8Size before := by
  rw [textStart, h.offset_eq]
  omega

theorem cut_pending (h : Stands source state before span back) :
    cut source state.textStart state.offset = .ok state.pending := by
  have hcut := cut_append before state.pending (span ++ back)
  rw [List.append_assoc, ← h.source_eq, ← h.offset_eq] at hcut
  rw [h.textStart_eq, hcut]

theorem cut_span (h : Stands source state before span back) :
    cut source state.offset state.stop = .ok span := by
  have hcut := cut_append (before ++ state.pending) span back
  rw [← h.stop_eq, Text.utf8Size_append, ← h.offset_eq, List.append_assoc, List.append_assoc,
    ← h.source_eq] at hcut
  exact hcut

theorem cut_back (h : Stands source state before span back) :
    cut source state.stop (Text.utf8Size source) = .ok back := by
  have hcut := cut_append (before ++ state.pending ++ span) back []
  rw [List.append_nil, ← Text.utf8Size_append, Text.utf8Size_append _ span, ← h.stop_eq,
    List.append_assoc, List.append_assoc, ← h.source_eq] at hcut
  exact hcut

theorem readPending_eq (h : Stands source state before span back) :
    state.readPending source = .ok state := by
  have hheld : state.pending.reverse = state.held := List.reverse_reverse state.held
  simp only [readPending, h.cut_pending, bind, Except.bind, hheld]
  rfl

theorem headAt?_eq (h : Stands source state before span back) :
    headAt? source state.offset state.stop =
      .ok ((Head.scan? span).map fun (head, _) =>
        ⟨state.offset, head, state.offset + head.size⟩) := by
  have hhead := headAt?_append (before ++ state.pending) span back
  rw [← h.stop_eq, Text.utf8Size_append, ← h.offset_eq, List.append_assoc, List.append_assoc,
    ← h.source_eq] at hhead
  exact hhead

/-- The `}` that is looked for up to the end of the level is the one that belongs to the head. -/
theorem matchingBrace?_eq {spelled body : Text} {head : Head}
    (h : Stands source state before (spelled ++ body) back) (hspells : Spells spelled head) :
    matchingBrace? source (state.offset + head.size) state.stop =
      .ok (closingBrace? (state.offset + head.size) body) := by
  obtain ⟨hsource, hsize⟩ := h.split_behind_head hspells
  have hstop : state.stop = state.offset + head.size + Text.utf8Size body := by
    rw [h.spans.stop, Text.utf8Size_append, hspells.utf8Size, Nat.add_assoc]
  have hmatch := matchingBrace?_append (before ++ (state.pending ++ spelled)) body back
  rw [hsize, List.append_assoc _ body, ← hsource, ← hstop] at hmatch
  exact hmatch

theorem cut_body {spelled body : Text} {head : Head}
    (h : Stands source state before (spelled ++ body) back) (hspells : Spells spelled head) :
    cut source (state.offset + head.size) (Text.utf8Size source) = .ok (body ++ back) := by
  obtain ⟨hsource, hsize⟩ := h.split_behind_head hspells
  have hcut := cut_append (before ++ (state.pending ++ spelled)) (body ++ back) []
  rw [List.append_nil, ← Text.utf8Size_append, ← hsource, hsize] at hcut
  exact hcut

theorem stepAtMarkIn_of_none (h : Stands source state before span back)
    (hscan : Head.scan? span = none) : state.stepAtMarkIn source = .ok (.next state.keepMark) := by
  simp only [stepAtMarkIn, h.headAt?_eq, hscan, bind, Except.bind, Option.map_none]
  rfl

theorem stepAtMarkIn_of_spells {spelled body : Text} {head : Head}
    (h : Stands source state before (spelled ++ body) back) (hspells : Spells spelled head) :
    state.stepAtMarkIn source = .ok
      (match closingBrace? (state.offset + head.size) body with
      | none => .failed (.unbalancedTag state.offset head.name)
      | some close => .next (state.enter head (body ++ back) close)) := by
  simp only [stepAtMarkIn, h.headAt?_eq, hspells.scan?_append, bind, Except.bind, Option.map_some,
    h.matchingBrace?_eq hspells]
  cases closingBrace? (state.offset + head.size) body with
  | none => rfl
  | some close =>
      simp only [h.readPending_eq, h.cut_body hspells]
      rfl

theorem stepIn_of_end (h : Stands source state before [] back) :
    state.stepIn source = .ok state.leave := by
  have hstop : state.stop ≤ state.offset := Nat.le_of_eq h.spans.stop
  simp only [stepIn, if_pos hstop, h.readPending_eq, bind, Except.bind]
  rfl

theorem stepIn_of_plain (h : Stands source state before span back) (hspan : span ≠ [])
    (hplain : '@' ∉ span) : state.stepIn source = .ok (.next (state.advance span back)) := by
  have hoffset : ¬ state.stop ≤ state.offset := by
    obtain ⟨c, more, rfl⟩ := List.exists_cons_of_ne_nil hspan
    have hmore := h.spans.offset_lt
    omega
  have hsplit : Text.splitFirst? '@' span = none := Text.splitFirst?_eq_none_iff.mpr hplain
  simp only [stepIn, if_neg hoffset, h.cut_span, h.cut_back, bind, Except.bind, hsplit]
  rfl

theorem stepIn_of_mark {front tail : Text} (h : Stands source state before (front ++ tail) back)
    (hplain : '@' ∉ front) (hmark : tail.head? = some '@') :
    state.stepIn source = (state.advance front (tail ++ back)).stepAtMarkIn source := by
  obtain ⟨more, rfl⟩ := List.head?_eq_some_iff.mp hmark
  have hoffset : ¬ state.stop ≤ state.offset := by
    have hmore := h.spans.advance.offset_lt
    simp only [State.advance] at hmore
    omega
  simp only [stepIn, if_neg hoffset, h.cut_span, h.cut_back, bind, Except.bind,
    Text.splitFirst?_append hplain]

/-- Where the walk stands, a step by offsets finds all it needs and does what the walk does. -/
theorem stepIn_eq (h : Stands source state before span back) :
    state.stepIn source = .ok state.step.2 := by
  have hturn := turn_of_spans h.spans
  generalize state.step.2 = step at hturn ⊢
  cases hturn with
  | finish hframes =>
      rw [h.stepIn_of_end, leave, hframes]
  | leave hframes =>
      rw [h.stepIn_of_end, leave, hframes]
      rfl
  | text hspan hplain => exact h.stepIn_of_plain hspan hplain
  | mark hplain hscan =>
      rw [h.stepIn_of_mark hplain rfl, h.advance.stepAtMarkIn_of_none hscan, keepMark_advance]
  | @enter front spelled inside behind _ head hplain hspells hbalanced =>
      rw [h.stepIn_of_mark hplain (hspells.head?_append _),
        h.advance.stepAtMarkIn_of_spells hspells, closingBrace?_append hbalanced,
        List.append_assoc inside, List.cons_append]
      rfl
  | @fail front spelled body head hplain hspells hclose =>
      rw [h.stepIn_of_mark hplain (hspells.head?_append body),
        h.advance.stepAtMarkIn_of_spells hspells, closingBrace?_of_none hclose]
      rfl

end Stands

def closesFrom (stop : Nat) : List Frame → List Nat
  | [] => []
  | frame :: frames => stop :: closesFrom frame.stop frames

def closes (state : State) : List Nat :=
  closesFrom state.stop state.frames

/-- The offsets of a state are in order and between characters of the source, the pending text lies
between the first two, the level ends where the innermost open element does or with the source, and
each open element ends at a `}` before that of the element around it. -/
structure InBounds (source : Text) (state : State) : Prop where
  textStart_le : state.textStart ≤ state.offset
  offset_le : state.offset ≤ state.stop
  stop_le : state.stop ≤ Text.utf8Size source
  pending_eq : cut source state.textStart state.offset = .ok state.pending
  isBoundary : ∀ offset ∈ state.textStart :: state.offset :: state.stop :: state.closes,
    Text.IsBoundary source offset
  stop_eq : state.stop = state.closes.headD (Text.utf8Size source)
  increasing : state.closes.Pairwise (· < ·)
  closing : ∀ close ∈ state.closes, ∃ front behind,
    source = front ++ '}' :: behind ∧ Text.utf8Size front = close

namespace Around

variable {source front back : Text} {stop : Nat} {frames : List Frame}

theorem stop_eq (h : Around back stop frames) (hstop : Text.utf8Size front = stop) :
    stop = (closesFrom stop frames).headD (Text.utf8Size (front ++ back)) := by
  cases h with
  | outermost =>
      rw [List.append_nil, hstop]
      rfl
  | element _ _ _ => rfl

/-- Each open element ends at a `}`, and before the element around it does. -/
theorem closes_in_order (h : Around back stop frames) (hsource : source = front ++ back)
    (hstop : Text.utf8Size front = stop) :
    (closesFrom stop frames).Pairwise (· < ·) ∧
      ∀ close ∈ closesFrom stop frames, stop ≤ close ∧ ∃ front behind,
        source = front ++ '}' :: behind ∧ Text.utf8Size front = close := by
  induction h generalizing front with
  | outermost => exact ⟨.nil, by simp [closesFrom]⟩
  | @element span back stop frame frames hnext _ _ ih =>
      have hmark : '}'.utf8Size = 1 := rfl
      have hlevel : source = (front ++ '}' :: span) ++ back := by simp [hsource]
      have hend : Text.utf8Size (front ++ '}' :: span) = frame.stop := by
        rw [Text.utf8Size_append, Text.utf8Size_cons, hstop, hnext, hmark, Nat.add_assoc]
      obtain ⟨hincreasing, hclosing⟩ := ih hlevel hend
      constructor
      · refine .cons ?_ hincreasing
        intro close hclose
        have hle := (hclosing close hclose).1
        omega
      · intro close hclose
        rcases List.mem_cons.mp hclose with rfl | hclose
        · exact ⟨Nat.le_refl _, front, span ++ back, hsource, hstop⟩
        · obtain ⟨hle, hplace⟩ := hclosing close hclose
          exact ⟨by omega, hplace⟩

end Around

theorem Stands.inBounds {source before span back : Text} {state : State}
    (h : Stands source state before span back) : state.InBounds source := by
  have hsource : source = before ++ state.pending ++ span ++ back := by
    rw [h.source_eq]
    simp
  have hstop : Text.utf8Size (before ++ state.pending ++ span) = state.stop := by
    rw [Text.utf8Size_append, h.stop_eq]
  obtain ⟨hincreasing, hclosing⟩ := h.around.closes_in_order hsource hstop
  constructor
  · exact Nat.sub_le _ _
  · rw [h.spans.stop]
    exact Nat.le_add_right _ _
  · rw [hsource, Text.utf8Size_append, hstop]
    exact Nat.le_add_right _ _
  · exact h.cut_pending
  · intro offset hoffset
    simp only [List.mem_cons] at hoffset
    rcases hoffset with rfl | rfl | rfl | hclose
    · exact ⟨before, _, h.source_eq, h.textStart_eq.symm⟩
    · exact ⟨before ++ state.pending, span ++ back, by rw [hsource]; simp,
        by rw [Text.utf8Size_append, h.offset_eq]⟩
    · exact ⟨_, back, hsource, hstop⟩
    · obtain ⟨-, front, behind, hplace, hsize⟩ := hclosing offset hclose
      exact ⟨front, '}' :: behind, hplace, hsize⟩
  · rw [hsource]
    exact h.around.stop_eq hstop
  · exact hincreasing
  · intro close hclose
    exact (hclosing close hclose).2

end State

/-- In every state of the walk through a source the offsets are within bounds and the parts of the
source that the step reads can be cut out, a step that is not the last one moves on, and the walk
ends with the result after at most one step for each byte and one more. -/
theorem walk_inBounds (source : Text) :
    (∀ count state, (State.initial source).Reaches count state →
      state.InBounds source ∧ state.stepIn source = .ok state.step.2 ∧
        ∀ following, state.step.2 = .next following → state.offset < following.offset) ∧
    ∃ count last, (State.initial source).Reaches count last ∧
      count + 1 ≤ Text.utf8Size source + 1 ∧
      ((∃ forest, last.step.2 = .done forest ∧ compile source = .ok forest) ∨
        ∃ error, last.step.2 = .failed error ∧ compile source = .error error) := by
  have hinitial := State.stands_initial source
  constructor
  · intro count state hreach
    obtain ⟨-, before, span, back, hstands⟩ := hreach.stands hinitial
    refine ⟨hstands.inBounds, hstands.stepIn_eq, ?_⟩
    intro following hstep
    exact (hstands.of_step hstep).1
  · obtain ⟨count, last, hreach, hlast⟩ := State.exists_last_of_run (State.initial source)
    obtain ⟨hcount, before, span, back, hstands⟩ := hreach.stands hinitial
    refine ⟨count, last, hreach, ?_, hlast⟩
    have hoffset := hstands.inBounds.offset_le
    have hstop := hstands.inBounds.stop_le
    omega

theorem exists_inBounds_in_nested_body :
    ∃ state, (State.initial r#"ä@p(k="}"){@ü@q{ö}}z"#.toList).Reaches 4 state ∧
      state.textStart = 18 ∧ state.offset = 20 ∧ state.closes = [20, 21] ∧
      state.InBounds r#"ä@p(k="}"){@ü@q{ö}}z"#.toList ∧
      state.stepIn r#"ä@p(k="}"){@ü@q{ö}}z"#.toList = .ok state.step.2 := by
  let state : State :=
    { offset := 20, stop := 20, held := ['ö'], rest := r#"}}z"#.toList, siblings := .nil
      frames := [⟨['q'], ⟨[]⟩, .text "@ü".toList .nil, 21⟩,
        ⟨['p'], ⟨[(['k'], ['}'])]⟩, .text ['ä'] .nil, 23⟩] }
  have hreach : (State.initial r#"ä@p(k="}"){@ü@q{ö}}z"#.toList).Reaches 4 state := by
    decide +kernel
  obtain ⟨hbounds, hstep, -⟩ := (walk_inBounds r#"ä@p(k="}"){@ü@q{ö}}z"#.toList).1 4 state hreach
  exact ⟨state, hreach, by decide, rfl, rfl, hbounds, hstep⟩

end Inlay.Markup
