import Inlay.Forest
import Inlay.Markup.Brace
import Inlay.Markup.Head

/-!
Compiling AHT to a forest. The compiler walks the source once from left to right. It keeps the
elements whose body it is in on a stack of frames, so that nesting costs no call depth, and it
looks up where each body ends as soon as the head is read. A head belongs to a level only if it
ends before the level does. Whatever is no head is text and is kept as it is written.
-/

namespace Inlay.Markup

/-- An element whose body is being read, with what is needed to go on behind its `}`. -/
structure Frame where
  tag : Text
  attributes : Attributes
  /-- The nodes before the element at its own level. -/
  earlier : Forest
  /-- The byte offset at which the level around the element ends. -/
  stop : Nat
  deriving DecidableEq, Repr

structure State where
  /-- The byte offset that has been reached in the source. -/
  offset : Nat
  /-- The byte offset at which this level ends, at the `}` of its element or with the source. -/
  stop : Nat
  /-- Text that has been read at this level since the last node, its last character first. -/
  held : Text
  /-- The source from the offset on. -/
  rest : Text
  /-- The nodes of this level. -/
  siblings : Forest
  /-- The elements around this level, the innermost first. -/
  frames : List Frame
  deriving DecidableEq, Repr

/-- The outcome of one step: another state, or the end of the work. -/
inductive Step where
  | next (state : State)
  | done (forest : Forest)
  | failed (error : CompileError)
  deriving DecidableEq, Repr

/-- Take characters from a text up to the next `@` or to the offset `stop`: the offset reached, the
characters in front of what was held before, and the text that is left. -/
def takeText (stop offset : Nat) (held : Text) : Text → Nat × Text × Text
  | [] => (offset, held, [])
  | c :: rest =>
      if stop ≤ offset ∨ c = '@' then (offset, held, c :: rest)
      else takeText stop (offset + c.utf8Size) (c :: held) rest

/-- What `takeText` takes is text without an `@`, and it goes on as long as it may. -/
theorem takeText_spec (stop offset : Nat) (held text : Text) :
    ∃ front back, text = front ++ back ∧ '@' ∉ front ∧
      takeText stop offset held text =
        (offset + Text.utf8Size front, front.reverse ++ held, back) ∧
      (back = [] ∨ stop ≤ offset + Text.utf8Size front ∨ back.head? = some '@') := by
  induction text generalizing offset held with
  | nil => exact ⟨[], [], by simp [takeText]⟩
  | cons c rest ih =>
      by_cases hc : stop ≤ offset ∨ c = '@'
      · refine ⟨[], c :: rest, rfl, by simp, by simp [takeText, hc], ?_⟩
        rcases hc with hstop | hmark
        · exact Or.inr (Or.inl (by simpa using hstop))
        · exact Or.inr (Or.inr (by simp [hmark]))
      · obtain ⟨front, back, hrest, hmark, htake, hend⟩ := ih (offset + c.utf8Size) (c :: held)
        refine ⟨c :: front, back, by simp [hrest], ?_, ?_, ?_⟩
        · simp only [not_or] at hc
          simp [hmark, Ne.symm hc.2]
        · simp [takeText, hc, htake, Nat.add_assoc]
        · simpa [Nat.add_assoc] using hend

namespace State

def initial (source : Text) : State :=
  ⟨0, Text.utf8Size source, [], source, .nil, []⟩

def pending (state : State) : Text :=
  state.held.reverse

def nodes (state : State) : Forest :=
  state.siblings ++ Forest.ofText state.pending

def textStart (state : State) : Nat :=
  state.offset - Text.utf8Size state.pending

def atEnd (state : State) : Bool :=
  state.stop ≤ state.offset || state.rest.isEmpty

theorem atEnd_iff {state : State} :
    state.atEnd = true ↔ state.stop ≤ state.offset ∨ state.rest = [] := by
  simp [atEnd]

/-- Leave the level, for the one around it or for good. -/
def leave (state : State) : Step :=
  match state.frames with
  | [] => .done state.nodes
  | frame :: frames =>
      .next {
        offset := state.stop + 1
        stop := frame.stop
        held := []
        rest := state.rest.drop 1
        siblings := frame.earlier ++ .element frame.tag frame.attributes state.nodes .nil
        frames := frames }

def skipText (state : State) : State :=
  let (offset, held, rest) := takeText state.stop state.offset state.held state.rest
  { state with offset := offset, held := held, rest := rest }

def keepMark (state : State) : State :=
  { state with
    offset := state.offset + 1
    held := '@' :: state.held
    rest := state.rest.drop 1 }

/-- The opening of a head at the offset, if it ends before the level does. -/
def opening? (state : State) : Option Opening :=
  (Opening.read? state.rest).filter (fun opening => state.offset + opening.size ≤ state.stop)

/-- Go into the body of the element whose head stands at the offset. -/
def enter (state : State) (head : Head) (body : Text) (close : Nat) : State where
  offset := state.offset + head.size
  stop := close
  held := []
  rest := body
  siblings := .nil
  frames := ⟨head.name, head.attributes, state.nodes, state.stop⟩ :: state.frames

/-- The step at an `@` and what is noted in it: the attributes of the opening there, and the tag if
its body is entered. -/
def stepAtMark (state : State) : List Log.Record × Step :=
  match state.opening? with
  | none => ([], .next state.keepMark)
  | some opening =>
      let noted := opening.records state.offset
      match Head.complete? opening with
      | none => (noted, .next state.keepMark)
      | some (head, body) =>
          match closingBrace? (state.offset + head.size) body with
          | none => (noted, .failed (.unbalancedTag state.offset head.name))
          | some close =>
              (noted ++ [.openedTag head.name state.offset],
                .next (state.enter head body close))

def step (state : State) : List Log.Record × Step :=
  if state.atEnd then
    ([], state.leave)
  else if state.skipText.atEnd then
    ([], .next state.skipText)
  else
    state.skipText.stepAtMark

def remaining (state : State) : Nat :=
  state.rest.length + state.frames.length

theorem length_rest_skipText (state : State) :
    state.skipText.rest.length ≤ state.rest.length ∧
      state.skipText.frames = state.frames := by
  obtain ⟨front, back, hrest, _, htake, _⟩ :=
    takeText_spec state.stop state.offset state.held state.rest
  refine ⟨?_, rfl⟩
  simp only [skipText, htake]
  rw [hrest, List.length_append]
  omega

theorem length_rest_skipText_lt {state : State} (h : ¬ state.atEnd = true)
    (hskip : state.skipText.atEnd = true) :
    state.skipText.rest.length < state.rest.length := by
  obtain ⟨front, back, hrest, _, htake, _⟩ :=
    takeText_spec state.stop state.offset state.held state.rest
  rw [atEnd_iff] at h hskip
  simp only [skipText, htake] at hskip ⊢
  cases front with
  | nil =>
      rw [List.nil_append] at hrest
      subst hrest
      exact absurd hskip h
  | cons c front =>
      rw [hrest]
      simp only [List.length_append, List.length_cons]
      omega

theorem remaining_lt_of_stepAtMark {state following : State} (hrest : state.rest ≠ [])
    (h : state.stepAtMark.2 = .next following) : following.remaining < state.remaining := by
  have hpos := List.length_pos_iff.mpr hrest
  unfold stepAtMark at h
  split at h
  · cases h
    simp only [remaining, keepMark, List.length_drop]
    omega
  · rename_i opening hopening
    have hread := Opening.length_after_lt_of_read? (Option.filter_eq_some_iff.mp hopening).1
    simp only at h
    split at h
    · cases h
      simp only [remaining, keepMark, List.length_drop]
      omega
    · rename_i head body hhead
      have hbody := Head.length_lt_of_complete? hhead
      split at h
      · cases h
      · cases h
        simp only [remaining, enter, List.length_cons]
        omega

theorem remaining_lt_of_step {state following : State} (h : state.step.2 = .next following) :
    following.remaining < state.remaining := by
  unfold step at h
  split at h
  · unfold leave at h
    split at h
    · cases h
    · rename_i frame frames hframes
      cases h
      simp only [remaining, hframes, List.length_drop, List.length_cons]
      omega
  · rename_i hend
    split at h
    · rename_i hskip
      cases h
      have hlength := length_rest_skipText_lt hend hskip
      simp only [remaining, (length_rest_skipText state).2]
      omega
    · rename_i hskip
      have hrest : state.skipText.rest ≠ [] := fun hempty =>
        hskip (atEnd_iff.mpr (Or.inr hempty))
      have hmark := remaining_lt_of_stepAtMark hrest h
      have hlength := length_rest_skipText state
      simp only [remaining, hlength.2] at hmark ⊢
      omega

end State

structure Outcome where
  records : List Log.Record
  result : Except CompileError Forest

def State.run (state : State) : Outcome :=
  match _h : state.step with
  | (records, .done forest) => ⟨records, .ok forest⟩
  | (records, .failed error) => ⟨records, .error error⟩
  | (records, .next following) =>
      let outcome := following.run
      ⟨records ++ outcome.records, outcome.result⟩
termination_by state.remaining
decreasing_by exact State.remaining_lt_of_step (congrArg Prod.snd _h)

namespace State

theorem run_of_done {state : State} {records : List Log.Record} {forest : Forest}
    (h : state.step = (records, .done forest)) : state.run = ⟨records, .ok forest⟩ := by
  rw [run]
  split <;> simp_all

theorem run_of_failed {state : State} {records : List Log.Record} {error : CompileError}
    (h : state.step = (records, .failed error)) : state.run = ⟨records, .error error⟩ := by
  rw [run]
  split <;> simp_all

theorem run_of_next {state following : State} {records : List Log.Record}
    (h : state.step = (records, .next following)) :
    state.run = ⟨records ++ following.run.records, following.run.result⟩ := by
  rw [run]
  split <;> simp_all

end State

def compileOutcome (source : Text) : Outcome :=
  (State.initial source).run

/-- The forest that a source spells, or the tag in it that has no end. -/
def compile (source : Text) : Except CompileError Forest :=
  (compileOutcome source).result

def records (source : Text) : List Log.Record :=
  (compileOutcome source).records

end Inlay.Markup
