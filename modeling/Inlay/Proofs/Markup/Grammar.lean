import Inlay.Proofs.Markup.PrintedHead
import Mathlib.Data.Set.List

namespace Inlay.Markup

/-- What stands behind the `=` of a segment and the blanks after it: a value without quotes around
it, or a quoted one and whatever follows its second quote. -/
inductive ValueForm where
  | unquoted (content : Text) (begins : ∀ c ∈ content.head?, Text.isBlank c = false ∧ c ≠ '"')
      (inValue : StaysInValue content)
  | quoted (content tail : Text) (noQuote : '"' ∉ content) (inValue : StaysInValue tail)

def ValueForm.text : ValueForm → Text
  | unquoted content .. => content
  | quoted content tail .. => '"' :: (content ++ '"' :: tail)

inductive SegmentForm where
  | bare (content : Text) (inName : StaysInName content)
  | assigned (name blanks : Text) (value : ValueForm) (inName : StaysInName name)
      (allBlank : Text.AllBlank blanks)

namespace SegmentForm

def text : SegmentForm → Text
  | bare content _ => content
  | assigned name blanks value .. => name ++ '=' :: (blanks ++ value.text)

def pair? : SegmentForm → Option (Text × Text)
  | bare .. => none
  | assigned name blanks value .. =>
      if name.all Text.isBlank then none
      else some (Text.trim name, unquote (Text.trim (blanks ++ value.text)))

end SegmentForm

/-- A head, taken apart. Without segments there is no group. -/
@[ext]
structure HeadForm where
  name : Text
  segments : List SegmentForm
  blanks : Text
  isTagName : IsTagName name
  allBlank : Text.AllBlank blanks

namespace HeadForm

def group (form : HeadForm) : Text :=
  if form.segments.isEmpty then []
  else '(' :: (List.intercalate [','] (form.segments.map SegmentForm.text) ++ [')'])

def text (form : HeadForm) : Text :=
  '@' :: (form.name ++ (form.group ++ (form.blanks ++ ['{'])))

def attributes (form : HeadForm) : Attributes :=
  Attributes.ofList (form.segments.filterMap SegmentForm.pair?)

def head (form : HeadForm) : Head :=
  ⟨form.name, form.attributes, Text.utf8Size form.text⟩

def located (form : HeadForm) (start : Nat) : LocatedHead :=
  ⟨start, form.head, start + Text.utf8Size form.text⟩

end HeadForm

namespace ValueForm

theorem not_isBlank_head (value : ValueForm) : ∀ c ∈ value.text.head?, Text.isBlank c = false := by
  cases value with
  | unquoted content begins => exact fun c hc => (begins c hc).1
  | quoted content tail =>
      rintro c ⟨⟩
      decide

theorem exists_after?_text (value : ValueForm) :
    ∃ place, Place.valueStart.after? value.text = some place ∧ place ≠ .quoted := by
  cases value with
  | unquoted content begins inValue =>
      cases content with
      | nil => exact ⟨.valueStart, rfl, by decide⟩
      | cons c content =>
          obtain ⟨hblank, hquote⟩ := begins c rfl
          obtain ⟨⟨hcomma, hparenthesis⟩, hrest⟩ := List.forall_mem_cons.mp inValue
          have hmove : Place.valueStart.move c = .stay .unquoted := by
            simp [Place.move, hblank, hquote, hcomma, hparenthesis]
          refine ⟨.unquoted, ?_, by decide⟩
          rw [text, Place.after?_cons_of_stay hmove, Place.after?_unquoted hrest]
  | quoted content tail noQuote inValue =>
      refine ⟨.unquoted, ?_, by decide⟩
      calc
        Place.valueStart.after? ('"' :: (content ++ '"' :: tail)) =
            Place.quoted.after? ('"' :: tail) :=
          Place.after?_append (Place.after?_quoted noQuote) _
        _ = some .unquoted := Place.after?_unquoted inValue

theorem exists_text_eq {rest : Text} {place : Place}
    (h : Place.valueStart.after? rest = some place) (hplace : place ≠ .quoted)
    (hfirst : ∀ c ∈ rest.head?, Text.isBlank c = false) :
    ∃ value : ValueForm, value.text = rest := by
  cases rest with
  | nil => exact ⟨.unquoted [] (by simp) (by simp [StaysInValue]), rfl⟩
  | cons c rest =>
      have hblank := hfirst c rfl
      by_cases hquote : c = '"'
      · subst hquote
        have hquoted : Place.quoted.after? rest = some place := h
        cases hsplit : Text.splitFirst? '"' rest with
        | none =>
            rw [Place.after?_quoted (Text.splitFirst?_eq_none_iff.mp hsplit)] at hquoted
            exact absurd (Option.some.inj hquoted).symm hplace
        | some parts =>
            obtain ⟨content, tail⟩ := parts
            obtain ⟨rfl, noQuote⟩ := Text.eq_append_of_splitFirst? hsplit
            rw [Place.after?_append (Place.after?_quoted noQuote)] at hquoted
            have htail : Place.unquoted.after? tail = some place := hquoted
            exact ⟨.quoted content tail noQuote (Place.staysInValue_of_unquoted htail), rfl⟩
      · have hcomma : c ≠ ',' := by
          rintro rfl
          cases h
        have hparenthesis : c ≠ ')' := by
          rintro rfl
          cases h
        have hmove : Place.valueStart.move c = .stay .unquoted := by
          simp [Place.move, hblank, hquote, hcomma, hparenthesis]
        rw [Place.after?_cons_of_stay hmove] at h
        refine ⟨.unquoted (c :: rest) ?_ ?_, rfl⟩
        · rintro d ⟨⟩
          exact ⟨hblank, hquote⟩
        · exact List.forall_mem_cons.mpr
            ⟨⟨hcomma, hparenthesis⟩, Place.staysInValue_of_unquoted h⟩

end ValueForm

namespace SegmentForm

theorem isSegment_text (form : SegmentForm) : AttributeGroup.IsSegment form.text := by
  cases form with
  | bare content inName => exact ⟨.name, Place.after?_name inName, by decide⟩
  | assigned name blanks value inName allBlank =>
      obtain ⟨place, hvalue, hplace⟩ := value.exists_after?_text
      refine ⟨place, ?_, hplace⟩
      calc
        Place.name.after? (name ++ '=' :: (blanks ++ value.text)) =
            Place.name.after? ('=' :: (blanks ++ value.text)) :=
          Place.after?_append (Place.after?_name inName) _
        _ = Place.valueStart.after? value.text :=
          Place.after?_append (Place.after?_valueStart allBlank) _
        _ = some place := hvalue

theorem exists_text_eq {raw : Text} (h : AttributeGroup.IsSegment raw) :
    ∃ form : SegmentForm, form.text = raw := by
  obtain ⟨place, hraw, hplace⟩ := h
  cases hsplit : Text.splitFirst? '=' raw with
  | none =>
      have hequals := Text.splitFirst?_eq_none_iff.mp hsplit
      exact ⟨.bare raw (Place.staysInName_of_name hraw hequals), rfl⟩
  | some parts =>
      obtain ⟨name, rest⟩ := parts
      obtain ⟨rfl, hequals⟩ := Text.eq_append_of_splitFirst? hsplit
      obtain ⟨between, hname, hrest⟩ := Place.exists_after?_of_append hraw
      have inName := Place.staysInName_of_name hname hequals
      rw [Place.after?_name inName] at hname
      cases hname
      -- The blanks that the rest begins with, all of them, come before the value.
      have hblanks := List.takeWhile_append_dropWhile (p := Text.isBlank) (l := rest)
      have allBlank : Text.AllBlank (rest.takeWhile Text.isBlank) := fun c hc =>
        List.mem_takeWhile_imp hc
      have hvalue : Place.valueStart.after? (rest.dropWhile Text.isBlank) = some place := by
        rw [← Place.after?_append (Place.after?_valueStart allBlank), hblanks]
        exact hrest
      obtain ⟨value, htext⟩ := ValueForm.exists_text_eq hvalue hplace (by
        intro c hc
        have hfirst := List.head?_dropWhile_not Text.isBlank rest
        rw [Option.mem_def.mp hc] at hfirst
        simpa using hfirst)
      refine ⟨.assigned name (rest.takeWhile Text.isBlank) value inName allBlank, ?_⟩
      rw [text, htext, hblanks]

end SegmentForm

theorem ValueForm.text_injective : Function.Injective ValueForm.text := by
  intro value other h
  cases value with
  | unquoted content begins =>
      cases other with
      | unquoted otherContent =>
          cases h
          rfl
      | quoted otherContent otherTail =>
          cases h
          exact absurd rfl (begins '"' rfl).2
  | quoted content tail noQuote =>
      cases other with
      | unquoted otherContent begins =>
          cases h
          exact absurd rfl (begins '"' rfl).2
      | quoted otherContent otherTail otherQuote =>
          have hsplit := Text.splitFirst?_append noQuote tail
          rw [(List.cons.inj h).2, Text.splitFirst?_append otherQuote] at hsplit
          cases hsplit
          rfl

theorem SegmentForm.text_injective : Function.Injective SegmentForm.text := by
  intro form other h
  cases form with
  | bare content inName =>
      cases other with
      | bare otherContent =>
          cases h
          rfl
      | assigned otherName otherBlanks otherValue =>
          cases h
          exact absurd (by simp) inName.not_mem
  | assigned name blanks value inName allBlank =>
      cases other with
      | bare otherContent otherInName =>
          cases h
          exact absurd (by simp) otherInName.not_mem
      | assigned otherName otherBlanks otherValue otherInName otherAllBlank =>
          have htext : name ++ '=' :: (blanks ++ value.text) =
              otherName ++ '=' :: (otherBlanks ++ otherValue.text) := h
          have hsplit := Text.splitFirst?_append inName.not_mem (blanks ++ value.text)
          rw [htext, Text.splitFirst?_append otherInName.not_mem] at hsplit
          obtain ⟨rfl, hrest⟩ := Prod.mk.inj (Option.some.inj hsplit)
          obtain ⟨rfl, hvalue⟩ := Text.blanks_inj otherAllBlank allBlank
            otherValue.not_isBlank_head value.not_isBlank_head hrest
          rw [ValueForm.text_injective hvalue]

theorem SegmentForm.toPair?_read (form : SegmentForm) :
    (Segment.read form.text).toPair? = form.pair? := by
  cases form with
  | bare content inName =>
      rw [text, Segment.read, Text.splitFirst?_eq_none_iff.mpr inName.not_mem]
      split <;> rfl
  | assigned name blanks value inName allBlank =>
      rw [text, read_assignment inName.not_mem, Text.isEmpty_trim, pair?]
      split <;> rfl

namespace HeadForm

theorem group_of_ne_nil {form : HeadForm} (h : form.segments ≠ []) :
    form.group = '(' :: (List.intercalate [','] (form.segments.map SegmentForm.text) ++ [')']) := by
  rw [group, if_neg (mt List.isEmpty_iff.mp h)]

theorem read?_append (form : HeadForm) (body : Text) :
    Opening.read? (form.text ++ body) =
      some ⟨form.name, form.segments.map SegmentForm.text, form.blanks ++ '{' :: body⟩ := by
  obtain ⟨name, segments, blanks, ⟨hname, hchars⟩, allBlank⟩ := form
  by_cases hsegments : segments = []
  · subst hsegments
    have htext : text ⟨name, [], blanks, ⟨hname, hchars⟩, allBlank⟩ ++ body =
        '@' :: (name ++ (blanks ++ '{' :: body)) := by
      simp [text, group]
    rw [htext]
    -- The name ends at a blank or at the `{`, and neither opens a group.
    cases blanks with
    | nil => exact Opening.read?_of_name hname hchars (by decide) (by decide)
    | cons c blanks =>
        have hc : Text.isBlank c = true := allBlank c (by simp)
        refine Opening.read?_of_name hname hchars (isNameChar_of_isBlank hc) ?_
        rintro rfl
        exact absurd hc (by decide)
  · have hraws : segments.map SegmentForm.text ≠ [] := by simpa using hsegments
    have hforms : ∀ raw ∈ segments.map SegmentForm.text, AttributeGroup.IsSegment raw := by
      intro raw hraw
      obtain ⟨segment, -, rfl⟩ := List.mem_map.mp hraw
      exact segment.isSegment_text
    have hread := Opening.read?_of_group hname hchars
      (AttributeGroup.rest?_intercalate hraws hforms (blanks ++ '{' :: body))
    rw [AttributeGroup.segments_intercalate hraws hforms (Or.inr rfl)] at hread
    rw [text, group_of_ne_nil hsegments, ← hread]
    simp

theorem scan?_append (form : HeadForm) (body : Text) :
    Head.scan? (form.text ++ body) = some (form.head, body) := by
  have hattributes : attributesOf (form.segments.map SegmentForm.text) = form.attributes := by
    rw [attributesOf, List.filterMap_map, attributes]
    congr 2
    funext segment
    exact segment.toPair?_read
  have hscan : Head.scan? (form.text ++ body) = Head.complete?
      ⟨form.name, form.segments.map SegmentForm.text, form.blanks ++ '{' :: body⟩ := by
    rw [Head.scan?, read?_append, Option.bind_some]
  rw [Head.complete?_of_blanks form.allBlank rfl, hattributes] at hscan
  have hsize := Head.utf8Size_of_scan? hscan
  rw [Text.utf8Size_append] at hsize
  rw [hscan, head, Nat.add_right_cancel hsize]

theorem exists_text_of_scan? {text body : Text} {head : Head}
    (h : Head.scan? text = some (head, body)) : ∃ form : HeadForm, text = form.text ++ body := by
  obtain ⟨opening, hopening, hhead⟩ := Option.bind_eq_some_iff.mp h
  obtain ⟨blanks, allBlank, hafter, -⟩ := Head.exists_blanks_of_complete? hhead
  obtain ⟨hname, hchars, ⟨-, htext⟩ | ⟨inside, hrest, -, htext⟩⟩ :=
    Opening.cases_of_read? hopening
  · refine ⟨⟨opening.name, [], blanks, ⟨hname, hchars⟩, allBlank⟩, ?_⟩
    rw [htext, hafter]
    simp [HeadForm.text, group]
  · obtain ⟨first, others, hfirst, hothers, hinside⟩ :=
      AttributeGroup.exists_segments_of_restFrom? hrest
    have hraws : first :: others ∈ Set.range (List.map SegmentForm.text) := by
      rw [Set.range_list_map]
      intro raw hraw
      rcases List.mem_cons.mp hraw with rfl | hraw
      · exact SegmentForm.exists_text_eq hfirst
      · exact SegmentForm.exists_text_eq (hothers raw hraw)
    obtain ⟨segments, hsegments⟩ := hraws
    have hne : segments ≠ [] := by
      rintro rfl
      cases hsegments
    refine ⟨⟨opening.name, segments, blanks, ⟨hname, hchars⟩, allBlank⟩, ?_⟩
    rw [htext, hinside, hafter, HeadForm.text, group_of_ne_nil hne, hsegments]
    simp

theorem eq_of_append_eq {form other : HeadForm} {body otherBody : Text}
    (h : form.text ++ body = other.text ++ otherBody) : form = other := by
  have hread := form.read?_append body
  rw [h, other.read?_append] at hread
  obtain ⟨hname, hsegments, hafter⟩ := (Opening.mk.injEq ..).mp (Option.some.inj hread)
  obtain ⟨hblanks, -⟩ := Text.blanks_inj form.allBlank other.allBlank
    (by rintro c ⟨⟩; decide) (by rintro c ⟨⟩; decide) hafter.symm
  exact HeadForm.ext hname.symm
    (List.map_injective_iff.mpr SegmentForm.text_injective hsegments.symm) hblanks

end HeadForm

theorem headAt?_accepts_grammar {source : Text} {start stop : Nat}
    (hstart : Text.IsBoundary source start) (hstop : Text.IsBoundary source stop)
    (hlt : start < stop) :
    (∀ located, headAt? source start stop = .ok (some located) ↔
        ∃ form : HeadForm, form.text <+: Text.part source start stop ∧
          located = form.located start) ∧
      (headAt? source start stop = .ok none ↔
        ∀ form : HeadForm, ¬ form.text <+: Text.part source start stop) ∧
      ∀ form other : HeadForm, form.text <+: Text.part source start stop →
        other.text <+: Text.part source start stop → form = other := by
  obtain ⟨front, inside, back, rfl, rfl, rfl⟩ := Text.exists_part_of_isBoundary hstart hstop hlt.le
  rw [headAt?_append, Text.part_append]
  refine ⟨?_, ?_, ?_⟩
  · intro located
    constructor
    · intro h
      obtain ⟨⟨head, body⟩, hscan, rfl⟩ := Option.map_eq_some_iff.mp (Except.ok.inj h)
      obtain ⟨form, rfl⟩ := HeadForm.exists_text_of_scan? hscan
      rw [form.scan?_append] at hscan
      cases hscan
      exact ⟨form, List.prefix_append form.text body, rfl⟩
    · rintro ⟨form, ⟨body, rfl⟩, rfl⟩
      rw [form.scan?_append]
      rfl
  · constructor
    · rintro h form ⟨body, rfl⟩
      rw [form.scan?_append] at h
      cases h
    · intro h
      cases hscan : Head.scan? inside with
      | none => rfl
      | some parts =>
          obtain ⟨form, rfl⟩ := HeadForm.exists_text_of_scan? hscan
          exact absurd (List.prefix_append form.text parts.2) (h form)
  · rintro form other ⟨body, hbody⟩ ⟨otherBody, hother⟩
    exact HeadForm.eq_of_append_eq (hbody.trans hother.symm)

theorem exists_head_behind_wide_character :
    ∃ (source : Text) (start stop : Nat) (located : LocatedHead),
      Text.IsBoundary source start ∧ Text.IsBoundary source stop ∧ start < stop ∧
      headAt? source start stop = .ok (some located) ∧
      located.head.attributes.entries =
        [("t".toList, "it\"s".toList), ("u".toList, "p,)".toList)] := by
  let apostrophe : ValueForm := .unquoted "it\"s".toList (by rintro c ⟨⟩; decide) (by decide)
  let number : ValueForm := .unquoted ['2'] (by rintro c ⟨⟩; decide) (by decide)
  let quoted : ValueForm := .quoted "p,)".toList [' '] (by decide) (by decide)
  let segments : List SegmentForm :=
    [.assigned ['t'] [] apostrophe (by decide) (by decide),
      .bare "\"x".toList (by decide),
      .assigned [' '] [] number (by decide) (by decide),
      .assigned ['u'] [' '] quoted (by decide) (by decide)]
  let form : HeadForm := ⟨['a'], segments, ['\n'], by decide, by decide⟩
  let source : Text := 'ä' :: (form.text ++ ['b', '}'])
  have hstart : Text.IsBoundary source 2 := ⟨['ä'], form.text ++ ['b', '}'], rfl, rfl⟩
  have hstop : Text.IsBoundary source (Text.utf8Size source) :=
    ⟨source, [], (List.append_nil source).symm, rfl⟩
  have hlt : 2 < Text.utf8Size source := by decide +kernel
  have hform : form.text <+: Text.part source 2 (Text.utf8Size source) := by decide +kernel
  refine ⟨source, 2, Text.utf8Size source, form.located 2, hstart, hstop, hlt, ?_, ?_⟩
  · exact ((headAt?_accepts_grammar hstart hstop hlt).1 (form.located 2)).mpr ⟨form, hform, rfl⟩
  · decide +kernel

end Inlay.Markup
