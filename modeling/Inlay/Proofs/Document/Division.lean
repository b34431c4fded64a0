import Inlay.Document.Parse
import Inlay.Document.Render
import Inlay.Html.Standard
import Inlay.Proofs.Text
import Inlay.Proofs.Text.Search
import Mathlib.Data.List.Chain

namespace Inlay

def Segment.spelling : Segment → Text
  | plain content => content
  | block slot => slot.raw

/-- A block is spelled as an element named for its dialect: an opening tag that goes on with a
blank, if it goes on, and ends at its first `>`, a content in which the closing tag does not occur,
and that closing tag. The source is the text of the content. -/
def Slot.IsElement (tokenize : Html.Tokenizer) (slot : Slot) : Prop :=
  ∃ name inside content closing : Text,
    slot.raw = '<' :: name ++ (inside ++ ['>']) ++ content ++ closing ∧
    Text.lower name = Text.lower slot.dialect.name ∧
    (∀ c ∈ inside.head?, Text.isHtmlBlank c = true) ∧ '>' ∉ inside ∧
    ¬ slot.dialect.closingTag <:+: Text.lower content ∧
    Text.lower closing = slot.dialect.closingTag ∧
    slot.source = Html.textContent tokenize content

namespace Document

def InPlain (document : Document) (offset : Nat) : Prop :=
  ∃ before content after, document.segments = before ++ .plain content :: after ∧
    Text.utf8Size (before.flatMap Segment.spelling) ≤ offset ∧
    offset < Text.utf8Size (before.flatMap Segment.spelling) + Text.utf8Size content

theorem closingTag_ne_nil (dialect : Dialect) : dialect.closingTag ≠ [] := by
  simp [Dialect.closingTag]

theorem lower_name_of_named? {name : Text} {dialect : Dialect}
    (h : Dialect.named? name = some dialect) : Text.lower name = Text.lower dialect.name := by
  have hfound := List.find?_some h
  exact (beq_iff_eq.mp hfound).symm

theorem isHtmlBlank_of_endsTagName {inside back : Text} (hinside : '>' ∉ inside)
    (h : endsTagName (inside ++ '>' :: back) = true) :
    ∀ c ∈ inside.head?, Text.isHtmlBlank c = true := by
  cases inside with
  | nil => simp
  | cons d inside =>
      intro c hc
      cases hc
      simp only [List.mem_cons, not_or] at hinside
      simpa [endsTagName, Ne.symm hinside.1] using h

theorem openingTag?_cons (rest : Text) :
    openingTag? ('<' :: rest) =
      (Dialect.named? (rest.takeWhile Char.isAlphanum)).bind fun dialect =>
        if endsTagName (rest.dropWhile Char.isAlphanum) then
          (Text.splitFirst? '>' (rest.dropWhile Char.isAlphanum)).map fun parts =>
            ⟨dialect, '<' :: rest.takeWhile Char.isAlphanum ++ parts.1 ++ ['>'], parts.2⟩
        else
          none := by
  simp only [openingTag?, Option.bind_eq_bind, guard]
  congr
  funext dialect
  split
  · rw [Option.map_eq_bind]
    rfl
  · rfl

theorem openingTag?_of_ne {c : Char} (h : c ≠ '<') (rest : Text) :
    openingTag? (c :: rest) = none := by
  unfold openingTag?
  split
  · rename_i hc
    cases hc
    exact absurd rfl h
  · rfl

theorem exists_parts_of_openingTag? {text : Text} {tag : OpeningTag}
    (h : openingTag? text = some tag) :
    ∃ name inside, text = tag.spelling ++ tag.after ∧
      tag.spelling = '<' :: name ++ (inside ++ ['>']) ∧
      Text.lower name = Text.lower tag.dialect.name ∧
      (∀ c ∈ inside.head?, Text.isHtmlBlank c = true) ∧ '>' ∉ inside := by
  cases text with
  | nil => cases h
  | cons c rest =>
      by_cases hc : c = '<'
      · subst hc
        rw [openingTag?_cons] at h
        obtain ⟨dialect, hdialect, h⟩ := Option.bind_eq_some_iff.mp h
        split at h
        · rename_i hends
          obtain ⟨⟨inside, after⟩, hsplit, rfl⟩ := Option.map_eq_some_iff.mp h
          obtain ⟨htail, hinside⟩ := Text.eq_append_of_splitFirst? hsplit
          rw [htail] at hends
          refine ⟨_, inside, ?_, by simp, lower_name_of_named? hdialect,
            isHtmlBlank_of_endsTagName hinside hends, hinside⟩
          calc
            '<' :: rest = '<' :: (rest.takeWhile Char.isAlphanum ++ (inside ++ '>' :: after)) := by
              rw [← htail, List.takeWhile_append_dropWhile]
            _ = '<' :: rest.takeWhile Char.isAlphanum ++ inside ++ ['>'] ++ after := by simp
        · cases h
      · rw [openingTag?_of_ne hc] at h
        cases h

section

variable {tokenize : Html.Tokenizer}

theorem exists_element_of_read {text after : Text} {slot : Slot}
    (h : read tokenize text = .block slot after) :
    text = slot.raw ++ after ∧ slot.IsElement tokenize ∧ slot.replacement = none := by
  unfold read at h
  split at h
  · cases h
  · rename_i tag htag
    split at h
    · cases h
    · rename_i hit hhit
      cases h
      obtain ⟨name, inside, htext, hspelling, hname, hblank, hinside⟩ :=
        exists_parts_of_openingTag? htag
      refine ⟨?_, ⟨name, inside, hit.before, hit.found, ?_, hname, hblank, hinside, ?_, ?_, rfl⟩,
        rfl⟩
      · rw [htext, Text.eq_append_of_findFold? hhit]
        simp
      · rw [hspelling]
      · exact Text.not_infix_before_of_findFold? (closingTag_ne_nil tag.dialect) hhit
      · exact Text.lower_found_of_findFold? hhit

/-- Where no block begins, an opening tag has no closing tag behind it. -/
theorem not_infix_after_of_read {text : Text} {tag : OpeningTag}
    (hread : ∀ slot after, read tokenize text ≠ .block slot after)
    (htag : openingTag? text = some tag) :
    ¬ tag.dialect.closingTag <:+: Text.lower tag.after := by
  rw [← Text.findFold?_eq_none_iff]
  cases hhit : Text.findFold? tag.dialect.closingTag tag.after with
  | none => rfl
  | some hit =>
      have hblock : ∃ slot after, read tokenize text = .block slot after := by
        simp [read, htag, hhit]
      obtain ⟨slot, after, hblock⟩ := hblock
      exact absurd hblock (hread slot after)

end

def OpeningTag.lower (tag : OpeningTag) : OpeningTag :=
  ⟨tag.dialect, Text.lower tag.spelling, Text.lower tag.after⟩

theorem named?_lower (name : Text) : Dialect.named? (Text.lower name) = Dialect.named? name := by
  simp only [Dialect.named?, Text.lower_lower]

theorem endsTagName_lower (text : Text) : endsTagName (Text.lower text) = endsTagName text := by
  cases text with
  | nil => rfl
  | cons c rest =>
      rw [Bool.eq_iff_iff]
      simp [endsTagName, Text.toLower_eq_iff (show '>'.isAlpha = false from rfl)]

theorem openingTag?_lower (text : Text) :
    openingTag? (Text.lower text) = (openingTag? text).map OpeningTag.lower := by
  cases text with
  | nil => rfl
  | cons c rest =>
      by_cases hc : c = '<'
      · subst hc
        have halphanum : Char.isAlphanum ∘ Char.toLower = Char.isAlphanum :=
          funext Text.isAlphanum_toLower
        have htake : (Text.lower rest).takeWhile Char.isAlphanum =
            Text.lower (rest.takeWhile Char.isAlphanum) := by
          rw [Text.lower, List.takeWhile_map, halphanum, Text.lower]
        have hdrop : (Text.lower rest).dropWhile Char.isAlphanum =
            Text.lower (rest.dropWhile Char.isAlphanum) := by
          rw [Text.lower, List.dropWhile_map, halphanum, Text.lower]
        rw [Text.lower_cons, show '<'.toLower = '<' from rfl, openingTag?_cons, openingTag?_cons,
          htake, hdrop, named?_lower, endsTagName_lower,
          Text.splitFirst?_lower (show '>'.isAlpha = false from rfl)]
        cases Dialect.named? (rest.takeWhile Char.isAlphanum) with
        | none => rfl
        | some dialect =>
            simp only [Option.bind_some]
            split
            · simp [OpeningTag.lower, Function.comp_def]
            · rfl
      · have hlower : c.toLower ≠ '<' := fun h =>
          hc ((Text.toLower_eq_iff (show '<'.isAlpha = false from rfl)).mp h)
        rw [Text.lower_cons, openingTag?_of_ne hlower, openingTag?_of_ne hc, Option.map_none]

/-- A division of a text into segments: plain segments are not empty, stand apart from each other
and are left where a block begins, and a block is what is read there. -/
inductive Division (tokenize : Html.Tokenizer) : Text → List Segment → Prop where
  | nil : Division tokenize [] []
  | plain {content rest : Text} {segments : List Segment} (hcontent : content ≠ [])
      (hnext : ∀ segment ∈ segments.head?, segment.isBlock = true)
      (hopen : ∀ left c right, content = left ++ c :: right →
        ∀ slot after, read tokenize (c :: right ++ rest) ≠ .block slot after)
      (hrest : Division tokenize rest segments) :
      Division tokenize (content ++ rest) (.plain content :: segments)
  | block {text after : Text} {slot : Slot} {segments : List Segment}
      (hread : read tokenize text = .block slot after) (hrest : Division tokenize after segments) :
      Division tokenize text (.block slot :: segments)

namespace Division

variable {tokenize : Html.Tokenizer} {text : Text} {segments : List Segment}

theorem plainChar {c : Char} (h : Division tokenize text segments)
    (hnext : ∀ segment ∈ segments.head?, segment.isBlock = true)
    (hread : ∀ slot after, read tokenize (c :: text) ≠ .block slot after) :
    Division tokenize (c :: text) (.plain [c] :: segments) := by
  have hopen : ∀ left d right, [c] = left ++ d :: right →
      ∀ slot after, read tokenize (d :: right ++ text) ≠ .block slot after := by
    intro left d right hsplit
    obtain ⟨rfl, hsingle⟩ := (List.singleton_eq_append_iff.mp hsplit).resolve_right (by simp)
    cases hsingle
    exact hread
  exact @Division.plain tokenize [c] text segments (by simp) hnext hopen h

theorem prependPlain {c : Char} (h : Division tokenize text segments)
    (hread : ∀ slot after, read tokenize (c :: text) ≠ .block slot after) :
    Division tokenize (c :: text) (prependPlain c segments) := by
  cases h with
  | nil => exact plainChar .nil (by simp) hread
  | block hblock hrest =>
      exact plainChar (.block hblock hrest) (by simp [Segment.isBlock, Segment.slot?]) hread
  | @plain content rest segments hcontent hnext hopen hrest =>
      refine @Division.plain tokenize (c :: content) rest segments (by simp) hnext ?_ hrest
      intro left d right hsplit
      cases left with
      | nil =>
          cases hsplit
          exact hread
      | cons e left =>
          obtain ⟨-, hinside⟩ := List.cons.inj hsplit
          exact hopen left d right hinside

theorem of_pieces (tokenize : Html.Tokenizer) (text : Text) :
    Division tokenize text (segmentsOf (pieces tokenize text)) := by
  fun_induction pieces tokenize text with
  | case1 => exact .nil
  | case2 c rest hread ih => exact ih.prependPlain (by simp [hread])
  | case3 c rest dialect hread ih => exact ih.prependPlain (by simp [hread])
  | case4 c rest slot after hread ih => exact .block hread ih

theorem flatMap_spelling (h : Division tokenize text segments) :
    segments.flatMap Segment.spelling = text := by
  induction h with
  | nil => rfl
  | plain _ _ _ _ ih => rw [List.flatMap_cons, ih, Segment.spelling]
  | block hread _ ih =>
      rw [List.flatMap_cons, ih, Segment.spelling, (exists_element_of_read hread).1]

theorem ne_nil_of_plain_mem (h : Division tokenize text segments) {content : Text}
    (hmem : .plain content ∈ segments) : content ≠ [] := by
  induction h with
  | nil => cases hmem
  | plain hcontent _ _ _ ih =>
      rcases List.mem_cons.mp hmem with heq | hmem
      · cases heq
        exact hcontent
      · exact ih hmem
  | block _ _ ih =>
      rcases List.mem_cons.mp hmem with heq | hmem
      · cases heq
      · exact ih hmem

theorem isElement_of_block_mem (h : Division tokenize text segments) {slot : Slot}
    (hmem : .block slot ∈ segments) : slot.IsElement tokenize ∧ slot.replacement = none := by
  induction h with
  | nil => cases hmem
  | plain _ _ _ _ ih =>
      rcases List.mem_cons.mp hmem with heq | hmem
      · cases heq
      · exact ih hmem
  | block hread _ ih =>
      rcases List.mem_cons.mp hmem with heq | hmem
      · cases heq
        exact (exists_element_of_read hread).2
      · exact ih hmem

theorem isChain (h : Division tokenize text segments) :
    segments.IsChain (fun first second => first.isBlock = true ∨ second.isBlock = true) := by
  induction h with
  | nil => exact .nil
  | @plain content rest segments _ hnext _ _ ih =>
      rw [List.isChain_cons]
      exact ⟨fun segment hsegment => Or.inr (hnext segment hsegment), ih⟩
  | @block text after slot segments _ _ ih =>
      rw [List.isChain_cons]
      exact ⟨fun segment _ => Or.inl rfl, ih⟩

/-- No place in a plain segment begins a block. -/
theorem read_ne_block (h : Division tokenize text segments) {before after : List Segment}
    {left right : Text} {c : Char}
    (hsegments : segments = before ++ .plain (left ++ c :: right) :: after) (slot : Slot)
    (behind : Text) :
    read tokenize (c :: right ++ after.flatMap Segment.spelling) ≠ .block slot behind := by
  induction h generalizing before with
  | nil => simp at hsegments
  | plain _ _ hopen hrest ih =>
      cases before with
      | nil =>
          cases hsegments
          rw [hrest.flatMap_spelling]
          exact hopen left c right rfl slot behind
      | cons segment before => exact ih (List.cons.inj hsegments).2
  | block _ _ ih =>
      cases before with
      | nil => cases hsegments
      | cons segment before => exact ih (List.cons.inj hsegments).2

end Division

theorem division_parse (tokenize : Html.Tokenizer) (text : Text) :
    Division tokenize text (parse tokenize text).segments :=
  .of_pieces tokenize text

theorem replacement_of_block_mem_parse {tokenize : Html.Tokenizer} {text : Text} {slot : Slot}
    (h : .block slot ∈ (parse tokenize text).segments) : slot.replacement = none :=
  ((division_parse tokenize text).isElement_of_block_mem h).2

theorem Division.exists_split_of_inPlain {tokenize : Html.Tokenizer} {text front rest : Text}
    {document : Document} (h : Division tokenize text document.segments)
    (htext : text = front ++ '<' :: rest) (hplain : document.InPlain (Text.utf8Size front)) :
    ∃ before left right after,
      document.segments = before ++ .plain (left ++ '<' :: right) :: after ∧
      rest = right ++ after.flatMap Segment.spelling := by
  obtain ⟨before, content, after, hsegments, hbefore, hcontent⟩ := hplain
  have hspelling := h.flatMap_spelling
  rw [hsegments, List.flatMap_append, List.flatMap_cons, Segment.spelling, htext] at hspelling
  obtain ⟨left, rfl, hleft⟩ := Text.exists_middle_of_append_eq hspelling hbefore
  rw [Text.utf8Size_append, Nat.add_lt_add_iff_left] at hcontent
  obtain ⟨inside, hinside, hrest⟩ :=
    Text.exists_middle_of_append_eq hleft.symm (Nat.le_of_lt hcontent)
  cases inside with
  | nil =>
      rw [hinside, List.append_nil] at hcontent
      exact absurd hcontent (Nat.lt_irrefl _)
  | cons c right =>
      obtain ⟨rfl, hbehind⟩ := List.cons.inj hrest
      exact ⟨before, left, right, after, by rw [hsegments, hinside], hbehind⟩

theorem flatMap_render_of_pending (serialize : Html.Serializer) {segments : List Segment}
    (h : ∀ slot, .block slot ∈ segments → slot.replacement = none) :
    segments.flatMap (Segment.render serialize) = segments.flatMap Segment.spelling := by
  apply List.flatMap_congr
  intro segment hmem
  cases segment with
  | plain content => rfl
  | block slot => simp only [Segment.render, Segment.spelling, h slot hmem]

/-- Reading a document loses nothing of its text and finds the blocks that there are. The segments
spell the text, so the document is written as it was read; plain segments are not empty and not next
to each other; blocks are elements named for their dialect; and an opening tag that stands in a
plain segment has no closing tag anywhere behind it. -/
theorem parse_divides (tokenize : Html.Tokenizer) (serialize : Html.Serializer) (text : Text) :
    ((parse tokenize text).segments.flatMap Segment.spelling = text ∧
      (parse tokenize text).render serialize = text) ∧
    ((∀ content, .plain content ∈ (parse tokenize text).segments → content ≠ []) ∧
      (parse tokenize text).segments.IsChain
        (fun first second => first.isBlock = true ∨ second.isBlock = true)) ∧
    (∀ slot, .block slot ∈ (parse tokenize text).segments → slot.IsElement tokenize) ∧
    ∀ front rest, text = front ++ '<' :: rest →
      (parse tokenize text).InPlain (Text.utf8Size front) →
      ∀ tag, openingTag? (Text.lower ('<' :: rest)) = some tag →
        ¬ tag.dialect.closingTag <:+: tag.after := by
  have hdivision : Division tokenize text (parse tokenize text).segments :=
    division_parse tokenize text
  refine ⟨⟨hdivision.flatMap_spelling, ?_⟩, ⟨?_, hdivision.isChain⟩, ?_, ?_⟩
  · calc
      (parse tokenize text).render serialize =
          (parse tokenize text).segments.flatMap (Segment.render serialize) := rfl
      _ = (parse tokenize text).segments.flatMap Segment.spelling :=
        flatMap_render_of_pending serialize fun _ => replacement_of_block_mem_parse
      _ = text := hdivision.flatMap_spelling
  · intro content hmem
    exact hdivision.ne_nil_of_plain_mem hmem
  · intro slot hmem
    exact (hdivision.isElement_of_block_mem hmem).1
  · intro front rest htext hplain tag htag
    obtain ⟨before, left, right, after, hsegments, rfl⟩ :=
      hdivision.exists_split_of_inPlain htext hplain
    rw [openingTag?_lower] at htag
    obtain ⟨spelled, hspelled, rfl⟩ := Option.map_eq_some_iff.mp htag
    exact not_infix_after_of_read (hdivision.read_ne_block hsegments) hspelled

theorem exists_unclosed_tag_before_block :
    ∃ (text rest : Text) (document : Document) (tag : OpeningTag) (slot : Slot),
      text = r#"ä<AAAD>ü<AHT k="<aht>">é</aHt>"#.toList ∧
      document = parse Html.Standard.tokenize text ∧
      document.segments = [.plain "ä<AAAD>ü".toList, .block slot] ∧
      slot.IsElement Html.Standard.tokenize ∧
      text = ['ä'] ++ '<' :: rest ∧ document.InPlain (Text.utf8Size ['ä']) ∧
      openingTag? (Text.lower ('<' :: rest)) = some tag ∧
      ¬ tag.dialect.closingTag <:+: tag.after := by
  let text : Text := r#"ä<AAAD>ü<AHT k="<aht>">é</aHt>"#.toList
  let rest : Text := r#"AAAD>ü<AHT k="<aht>">é</aHt>"#.toList
  let document := parse Html.Standard.tokenize text
  let slot : Slot :=
    { dialect := .markup
      raw := r#"<AHT k="<aht>">é</aHt>"#.toList
      source := r#"">é"#.toList }
  let tag : OpeningTag :=
    { dialect := .stylesheet
      spelling := "<aaad>".toList
      after := r#"ü<aht k="<aht>">é</aht>"#.toList }
  have hsegments : document.segments = [.plain "ä<AAAD>ü".toList, .block slot] := by
    decide +kernel
  have hslot : .block slot ∈ document.segments := by
    rw [hsegments]
    exact List.mem_cons_of_mem _ List.mem_cons_self
  have hplain : document.InPlain (Text.utf8Size ['ä']) :=
    ⟨[], "ä<AAAD>ü".toList, [.block slot], hsegments, by decide, by decide⟩
  have htext : text = ['ä'] ++ '<' :: rest := by decide
  have htag : openingTag? (Text.lower ('<' :: rest)) = some tag := by decide +kernel
  obtain ⟨-, -, helement, hmissed⟩ :=
    parse_divides Html.Standard.tokenize Html.Standard.serialize text
  exact ⟨text, rest, document, tag, slot, rfl, rfl, hsegments, helement slot hslot, htext, hplain,
    htag, hmissed ['ä'] _ htext hplain tag htag⟩

end Document

end Inlay
