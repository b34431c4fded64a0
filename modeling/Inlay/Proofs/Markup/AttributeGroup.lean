import Inlay.Markup.AttributeGroup
import Inlay.Proofs.Text.Trim

namespace Inlay.Markup

/-! How a group of attributes is cut. A stretch of text that stays within one segment leads from
place to place; a group as a whole is read from its own characters, whatever follows it. -/

def Place.after? : Place → Text → Option Place
  | place, [] => some place
  | place, c :: rest =>
      match place.move c with
      | .stay next => next.after? rest
      | _ => none

namespace Place

theorem after?_cons_of_stay {place next : Place} {c : Char} (h : place.move c = .stay next)
    (rest : Text) : place.after? (c :: rest) = next.after? rest := by
  simp only [after?, h]

theorem after?_append {place next : Place} {front : Text} (h : place.after? front = some next)
    (back : Text) : place.after? (front ++ back) = next.after? back := by
  induction front generalizing place with
  | nil =>
      cases h
      rfl
  | cons c front ih =>
      simp only [after?, List.cons_append] at h ⊢
      split at h
      · exact ih h
      · cases h

theorem after?_of_stays {place : Place} {text : Text}
    (h : ∀ c ∈ text, place.move c = .stay place) : place.after? text = some place := by
  induction text with
  | nil => rfl
  | cons c rest ih =>
      rw [after?_cons_of_stay (h c (by simp))]
      exact ih (fun d hd => h d (by simp [hd]))

theorem move_name {c : Char} (hequals : c ≠ '=') (hcomma : c ≠ ',') (hparenthesis : c ≠ ')') :
    move .name c = .stay .name := by
  simp [move, hequals, hcomma, hparenthesis]

theorem move_quoted {c : Char} (h : c ≠ '"') : move .quoted c = .stay .quoted := by
  simp [move, h]

theorem move_comma {place : Place} (h : place ≠ .quoted) : place.move ',' = .cut := by
  cases place with
  | quoted => exact absurd rfl h
  | name => rfl
  | valueStart => rfl
  | unquoted => rfl

theorem move_parenthesis {place : Place} (h : place ≠ .quoted) : place.move ')' = .finish := by
  cases place with
  | quoted => exact absurd rfl h
  | name => rfl
  | valueStart => rfl
  | unquoted => rfl

theorem ne_quoted_of_move {place : Place} {c : Char}
    (h : place.move c = .cut ∨ place.move c = .finish) : place ≠ .quoted := by
  rintro rfl
  simp only [move] at h
  split at h <;> simp at h

end Place

def StaysInName (text : Text) : Prop :=
  ∀ c ∈ text, c ≠ '=' ∧ c ≠ ',' ∧ c ≠ ')'

def StaysInValue (text : Text) : Prop :=
  ∀ c ∈ text, c ≠ ',' ∧ c ≠ ')'

instance (text : Text) : Decidable (StaysInName text) :=
  List.decidableBAll (fun c => c ≠ '=' ∧ c ≠ ',' ∧ c ≠ ')') text

instance (text : Text) : Decidable (StaysInValue text) :=
  List.decidableBAll (fun c => c ≠ ',' ∧ c ≠ ')') text

theorem StaysInName.not_mem {name : Text} (h : StaysInName name) : '=' ∉ name :=
  fun hmem => (h '=' hmem).1 rfl

namespace Place

theorem after?_name {text : Text} (h : StaysInName text) : name.after? text = some .name := by
  apply after?_of_stays
  intro c hc
  obtain ⟨hequals, hcomma, hparenthesis⟩ := h c hc
  exact move_name hequals hcomma hparenthesis

theorem after?_valueStart {text : Text} (h : Text.AllBlank text) :
    valueStart.after? text = some .valueStart := by
  apply after?_of_stays
  intro c hc
  have hblank := h c hc
  have hmarks : c ≠ ')' ∧ c ≠ ',' ∧ c ≠ '"' := by
    refine ⟨?_, ?_, ?_⟩ <;> rintro rfl <;> exact absurd hblank (by decide)
  simp [move, hmarks, hblank]

theorem after?_quoted {text : Text} (h : '"' ∉ text) : quoted.after? text = some .quoted := by
  apply after?_of_stays
  intro c hc
  exact move_quoted (fun hquote => h (hquote ▸ hc))

theorem after?_unquoted {text : Text} (h : StaysInValue text) :
    unquoted.after? text = some .unquoted := by
  apply after?_of_stays
  intro c hc
  obtain ⟨hcomma, hparenthesis⟩ := h c hc
  simp [move, hcomma, hparenthesis]

theorem exists_after?_of_append {place next : Place} {front back : Text}
    (h : place.after? (front ++ back) = some next) :
    ∃ between, place.after? front = some between ∧ between.after? back = some next := by
  induction front generalizing place with
  | nil => exact ⟨place, rfl, h⟩
  | cons c front ih =>
      simp only [after?, List.cons_append] at h ⊢
      split at h
      · exact ih h
      · cases h

/-- Where only a comma or a parenthesis leads away from a place, a text that leads nowhere else has
neither. -/
theorem staysInValue_of_after? {place next : Place} {text : Text} (hplace : place ≠ .quoted)
    (hstays : ∀ c ∈ text, c ≠ ',' → c ≠ ')' → place.move c = .stay place)
    (h : place.after? text = some next) : StaysInValue text := by
  induction text with
  | nil => simp [StaysInValue]
  | cons c text ih =>
      have hcomma : c ≠ ',' := by
        rintro rfl
        simp only [after?, move_comma hplace] at h
        cases h
      have hparenthesis : c ≠ ')' := by
        rintro rfl
        simp only [after?, move_parenthesis hplace] at h
        cases h
      rw [after?_cons_of_stay (hstays c (by simp) hcomma hparenthesis)] at h
      exact List.forall_mem_cons.mpr
        ⟨⟨hcomma, hparenthesis⟩, ih (fun d hd => hstays d (by simp [hd])) h⟩

theorem staysInValue_of_unquoted {text : Text} {next : Place}
    (h : unquoted.after? text = some next) : StaysInValue text := by
  apply staysInValue_of_after? (by decide) _ h
  intro c _ hcomma hparenthesis
  simp [move, hcomma, hparenthesis]

theorem staysInName_of_name {text : Text} {next : Place} (h : name.after? text = some next)
    (hequals : '=' ∉ text) : StaysInName text := by
  have hne (c : Char) (hc : c ∈ text) : c ≠ '=' := fun heq => hequals (heq ▸ hc)
  have hvalue : StaysInValue text := by
    apply staysInValue_of_after? (by decide) _ h
    intro c hc hcomma hparenthesis
    exact move_name (hne c hc) hcomma hparenthesis
  exact fun c hc => ⟨hne c hc, hvalue c hc⟩

end Place

namespace AttributeGroup

theorem foldr_prepend_cons (front first : Text) (others : List Text) :
    front.foldr Text.prepend (first :: others) = (front ++ first) :: others := by
  induction front with
  | nil => rfl
  | cons c front ih => simp [ih]

theorem segmentsFrom_append {place next : Place} {front : Text}
    (h : place.after? front = some next) (back : Text) :
    segmentsFrom place (front ++ back) = front.foldr Text.prepend (segmentsFrom next back) := by
  induction front generalizing place with
  | nil =>
      cases h
      rfl
  | cons c front ih =>
      simp only [Place.after?] at h
      simp only [List.cons_append, segmentsFrom, List.foldr_cons]
      split at h
      · rename_i following hmove
        rw [hmove]
        exact congrArg (Text.prepend c) (ih h)
      · cases h

theorem restFrom?_append {place next : Place} {front : Text}
    (h : place.after? front = some next) (back : Text) :
    restFrom? place (front ++ back) = restFrom? next back := by
  induction front generalizing place with
  | nil =>
      cases h
      rfl
  | cons c front ih =>
      simp only [Place.after?] at h
      simp only [List.cons_append, restFrom?]
      split at h
      · rename_i following hmove
        rw [hmove]
        exact ih h
      · cases h

/-- A closed group is read from its own characters alone. -/
theorem exists_group_of_restFrom? {place : Place} {text after : Text}
    (h : restFrom? place text = some after) :
    ∃ group, text = group ++ after ∧ ∀ back,
      restFrom? place (group ++ back) = some back ∧
        segmentsFrom place (group ++ back) = segmentsFrom place text := by
  induction text generalizing place with
  | nil => cases h
  | cons c text ih =>
      simp only [restFrom?] at h
      split at h
      · rename_i hmove
        cases h
        refine ⟨[c], rfl, fun back => ⟨?_, ?_⟩⟩
        · simp only [List.singleton_append, restFrom?, hmove]
        · simp only [List.singleton_append, segmentsFrom, hmove]
      · rename_i hmove
        obtain ⟨group, hgroup, hread⟩ := ih h
        refine ⟨c :: group, by rw [hgroup, List.cons_append], fun back => ⟨?_, ?_⟩⟩
        · simp only [List.cons_append, restFrom?, hmove]
          exact (hread back).1
        · simp only [List.cons_append, segmentsFrom, hmove]
          rw [(hread back).2]
      · rename_i next hmove
        obtain ⟨group, hgroup, hread⟩ := ih h
        refine ⟨c :: group, by rw [hgroup, List.cons_append], fun back => ⟨?_, ?_⟩⟩
        · simp only [List.cons_append, restFrom?, hmove]
          exact (hread back).1
        · simp only [List.cons_append, segmentsFrom, hmove]
          rw [(hread back).2]

/-- A text that can stand as a segment: no character of it ends the segment, and no quoted value is
open behind it. -/
def IsSegment (raw : Text) : Prop :=
  ∃ place, Place.name.after? raw = some place ∧ place ≠ .quoted

theorem segments_cut {raw : Text} (h : IsSegment raw) (following : Text) :
    segments (raw ++ ',' :: following) = raw :: segments following := by
  obtain ⟨place, hraw, hplace⟩ := h
  rw [segments, segmentsFrom_append hraw, segmentsFrom, Place.move_comma hplace]
  simp only [foldr_prepend_cons, List.append_nil]
  rfl

theorem segments_end {raw back : Text} (h : IsSegment raw)
    (hback : back = [] ∨ back.head? = some ')') : segments (raw ++ back) = [raw] := by
  obtain ⟨place, hraw, hplace⟩ := h
  have hend : segmentsFrom place back = [[]] := by
    cases back with
    | nil => rfl
    | cons c back =>
        obtain rfl : c = ')' := by simpa using hback
        simp only [segmentsFrom, Place.move_parenthesis hplace]
  rw [segments, segmentsFrom_append hraw, hend, foldr_prepend_cons, List.append_nil]

theorem segments_intercalate {raws : List Text} (hne : raws ≠ [])
    (hraws : ∀ raw ∈ raws, IsSegment raw) {back : Text}
    (hback : back = [] ∨ back.head? = some ')') :
    segments (List.intercalate [','] raws ++ back) = raws := by
  induction raws with
  | nil => exact absurd rfl hne
  | cons raw raws ih =>
      have hraw := hraws raw (by simp)
      cases raws with
      | nil => rw [List.intercalate_singleton, segments_end hraw hback]
      | cons next raws =>
          have hrest := ih (by simp) (fun other hmem => hraws other (by simp [hmem]))
          rw [List.intercalate_cons_cons, List.append_assoc, List.append_assoc,
            List.singleton_append, segments_cut hraw, hrest]

theorem rest?_intercalate {raws : List Text} (hne : raws ≠ [])
    (hraws : ∀ raw ∈ raws, IsSegment raw) (back : Text) :
    rest? (List.intercalate [','] raws ++ ')' :: back) = some back := by
  induction raws with
  | nil => exact absurd rfl hne
  | cons raw raws ih =>
      obtain ⟨place, hraw, hplace⟩ := hraws raw (by simp)
      cases raws with
      | nil =>
          rw [List.intercalate_singleton, rest?, restFrom?_append hraw, restFrom?,
            Place.move_parenthesis hplace]
      | cons next raws =>
          have hrest := ih (by simp) (fun other hmem => hraws other (by simp [hmem]))
          rw [List.intercalate_cons_cons, List.append_assoc, List.append_assoc,
            List.singleton_append, rest?, restFrom?_append hraw, restFrom?,
            Place.move_comma hplace]
          exact hrest

/-- A closed group can be told apart into segments, of which the first goes on from the place where
the reading begins. -/
theorem exists_segments_of_restFrom? {place : Place} {text after : Text}
    (h : restFrom? place text = some after) :
    ∃ first others, (∃ next, place.after? first = some next ∧ next ≠ .quoted) ∧
      (∀ raw ∈ others, IsSegment raw) ∧
      text = List.intercalate [','] (first :: others) ++ ')' :: after := by
  induction text generalizing place with
  | nil => cases h
  | cons c text ih =>
      simp only [restFrom?] at h
      split at h
      · rename_i hmove
        cases h
        refine ⟨[], [], ⟨place, rfl, Place.ne_quoted_of_move (Or.inr hmove)⟩, by simp, ?_⟩
        rw [Place.eq_of_move_finish hmove]
        rfl
      · rename_i hmove
        obtain ⟨first, others, hfirst, hothers, htext⟩ := ih h
        refine ⟨[], first :: others, ⟨place, rfl, Place.ne_quoted_of_move (Or.inl hmove)⟩, ?_, ?_⟩
        · exact List.forall_mem_cons.mpr ⟨hfirst, hothers⟩
        · rw [Place.eq_of_move_cut hmove, htext, List.intercalate_cons_cons]
          simp
      · rename_i next hmove
        obtain ⟨first, others, ⟨last, hfirst, hlast⟩, hothers, htext⟩ := ih h
        refine ⟨c :: first, others, ⟨last, ?_, hlast⟩, hothers, ?_⟩
        · rw [Place.after?_cons_of_stay hmove, hfirst]
        · rw [htext]
          cases others <;> simp [List.intercalate_cons_cons]

end AttributeGroup

end Inlay.Markup
