import Inlay.Proofs.Markup.Compile
import Inlay.Proofs.Markup.PrintedHead

namespace Inlay

open Markup

def Forest.WellNamed (forest : Forest) : Prop :=
  ∀ root ∈ forest.elements, IsTagName root.tag ∧ root.attributes.WellNamed

instance (forest : Forest) : Decidable forest.WellNamed :=
  inferInstanceAs (Decidable
    (∀ root ∈ forest.elements, IsTagName root.tag ∧ root.attributes.WellNamed))

namespace Forest

theorem wellNamed_text {content : Text} {rest : Forest} :
    (text content rest).WellNamed ↔ rest.WellNamed := Iff.rfl

theorem wellNamed_element {tag : Text} {attributes : Attributes} {children rest : Forest} :
    (element tag attributes children rest).WellNamed ↔
      (IsTagName tag ∧ attributes.WellNamed) ∧ children.WellNamed ∧ rest.WellNamed := by
  simp only [WellNamed, elements, List.forall_mem_cons, List.forall_mem_append]

end Forest

namespace Markup

def StartsPlain (raw : Text) : Prop :=
  ∀ c ∈ raw.takeWhile (· != '='), c ≠ ',' ∧ c ≠ ')'

theorem Place.of_move_name {c : Char} {next : Place} (h : Place.name.move c = .stay next) :
    (c ≠ ',' ∧ c ≠ ')') ∧ (c = '=' ∨ next = .name) := by
  simp only [Place.move] at h
  split at h
  · cases h
  · rename_i hparenthesis
    split at h
    · cases h
    · rename_i hcomma
      split at h
      · rename_i hequals
        exact ⟨⟨hcomma, hparenthesis⟩, Or.inl hequals⟩
      · cases h
        exact ⟨⟨hcomma, hparenthesis⟩, Or.inr rfl⟩

theorem startsPlain_segmentsFrom {place : Place} {text first : Text} {others : List Text}
    (h : AttributeGroup.segmentsFrom place text = first :: others) :
    (place = .name → StartsPlain first) ∧ ∀ raw ∈ others, StartsPlain raw := by
  have hempty : StartsPlain [] := by simp [StartsPlain]
  induction text generalizing place first others with
  | nil =>
      cases h
      exact ⟨fun _ => hempty, by simp⟩
  | cons c text ih =>
      simp only [AttributeGroup.segmentsFrom] at h
      split at h
      · cases h
        exact ⟨fun _ => hempty, by simp⟩
      · cases h
        refine ⟨fun _ => hempty, ?_⟩
        intro raw hraw
        obtain ⟨start, more, hmore⟩ :=
          List.exists_cons_of_ne_nil (AttributeGroup.segmentsFrom_ne_nil .name text)
        obtain ⟨hstart, hothers⟩ := ih hmore
        rw [hmore, List.mem_cons] at hraw
        rcases hraw with rfl | hraw
        · exact hstart rfl
        · exact hothers raw hraw
      · rename_i next hmove
        obtain ⟨start, more, hmore⟩ :=
          List.exists_cons_of_ne_nil (AttributeGroup.segmentsFrom_ne_nil next text)
        obtain ⟨hstart, hothers⟩ := ih hmore
        rw [hmore, Text.prepend_cons] at h
        cases h
        refine ⟨?_, hothers⟩
        rintro rfl
        obtain ⟨hc, hequals | hnext⟩ := Place.of_move_name hmove
        · simp [StartsPlain, hequals]
        · intro d hd
          by_cases hequals : c = '='
          · simp [hequals] at hd
          · rw [List.takeWhile_cons_of_pos (by simpa using hequals), List.mem_cons] at hd
            rcases hd with rfl | hd
            · exact hc
            · exact hstart hnext d hd

theorem isAttributeName_of_read {raw name value : Text} (hraw : StartsPlain raw)
    (h : Segment.read raw = .pair name value) : IsAttributeName name := by
  unfold Segment.read at h
  split at h
  · cases h
  · cases hsplit : Text.splitFirst? '=' raw with
    | none =>
        rw [hsplit] at h
        cases h
    | some parts =>
        obtain ⟨front, back⟩ := parts
        obtain ⟨rfl, hfront⟩ := Text.eq_append_of_splitFirst? hsplit
        rw [hsplit] at h
        simp only at h
        split at h
        · cases h
        · rename_i hne
          cases h
          have hplain : ∀ c ∈ front, (c != '=') = true := by
            intro c hc
            exact bne_iff_ne.mpr (fun hequals => hfront (hequals ▸ hc))
          have htake : (front ++ '=' :: back).takeWhile (· != '=') = front :=
            Text.takeWhile_append_cons hplain (by decide) back
          refine ⟨by rwa [List.isEmpty_iff] at hne, Text.trim_trim front, ?_⟩
          intro c hc
          have hmem := Text.mem_of_mem_trim hc
          obtain ⟨hcomma, hparenthesis⟩ := hraw c (by rwa [htake])
          exact ⟨fun hequals => hfront (hequals ▸ hmem), hcomma, hparenthesis⟩

theorem wellNamed_attributesOf {segments : List Text} (h : ∀ raw ∈ segments, StartsPlain raw) :
    (attributesOf segments).WellNamed where
  nodup := Attributes.nodup_names_ofList _
  isAttributeName := by
    intro name hname
    obtain ⟨⟨_, value⟩, hpair, rfl⟩ := List.mem_map.mp (Attributes.mem_names_ofList.mp hname)
    obtain ⟨raw, hraw, hread⟩ := List.mem_filterMap.mp hpair
    cases hsegment : Segment.read raw with
    | pair name value =>
        rw [hsegment] at hread
        cases hread
        exact isAttributeName_of_read (h raw hraw) hsegment
    | _ =>
        rw [hsegment] at hread
        cases hread

theorem Spells.wellNamed {spelled : Text} {head : Head} (h : Spells spelled head) :
    IsTagName head.name ∧ head.attributes.WellNamed := by
  obtain ⟨opening, hread, hcomplete⟩ := Option.bind_eq_some_iff.mp h
  obtain ⟨blanks, -, -, rfl⟩ := Head.exists_blanks_of_complete? hcomplete
  obtain ⟨hname, hchars, hgroup⟩ := Opening.cases_of_read? hread
  refine ⟨⟨hname, hchars⟩, wellNamed_attributesOf ?_⟩
  intro raw hraw
  rcases hgroup with ⟨hempty, -⟩ | ⟨inside, -, hsegments, -⟩
  · rw [hempty] at hraw
    cases hraw
  · obtain ⟨first, others, hcons⟩ :=
      List.exists_cons_of_ne_nil (AttributeGroup.segmentsFrom_ne_nil .name inside)
    obtain ⟨hfirst, hothers⟩ := startsPlain_segmentsFrom hcons
    rw [hsegments, AttributeGroup.segments, hcons, List.mem_cons] at hraw
    rcases hraw with rfl | hraw
    · exact hfirst rfl
    · exact hothers raw hraw

theorem merged_of_descend {source : Text} {forest : Forest} (h : descend source = .ok forest) :
    forest.Merged := by
  induction forest generalizing source with
  | nil => trivial
  | text content rest ih =>
      obtain ⟨hcontent, hrest, back, -, -, hback⟩ := exists_of_descend_text h
      exact ⟨hcontent, hrest, ih hback⟩
  | element tag attributes children rest ihChildren ihRest =>
      obtain ⟨spelled, inside, behind, size, -, -, -, hinside, hbehind⟩ :=
        exists_of_descend_element h
      exact ⟨ihChildren hinside, ihRest hbehind⟩

theorem wellNamed_of_descend {source : Text} {forest : Forest}
    (h : descend source = .ok forest) : forest.WellNamed := by
  induction forest generalizing source with
  | nil => exact fun root hroot => nomatch hroot
  | text content rest ih =>
      obtain ⟨-, -, back, -, -, hback⟩ := exists_of_descend_text h
      exact Forest.wellNamed_text.mpr (ih hback)
  | element tag attributes children rest ihChildren ihRest =>
      obtain ⟨spelled, inside, behind, size, -, hspells, -, hinside, hbehind⟩ :=
        exists_of_descend_element h
      exact Forest.wellNamed_element.mpr
        ⟨hspells.wellNamed, ihChildren hinside, ihRest hbehind⟩

/-- In a compiled forest, at every level, no text is empty or next to another text, every tag is a
name, and the attributes of every element have proper names that are different from each other. -/
theorem merged_and_wellNamed_of_compile {source : Text} {forest : Forest}
    (h : compile source = .ok forest) : forest.Merged ∧ forest.WellNamed := by
  have hdescend : descend source = .ok forest := descend_eq_of_compile h
  exact ⟨merged_of_descend hdescend, wellNamed_of_descend hdescend⟩

theorem exists_merged_and_wellNamed_of_repeated_names : ∃ forest,
    compile r#"{@ @p(a = 1,=x, b ,a="2"){x@{}@q_1{}}@("#.toList = .ok forest ∧ forest.Merged ∧
      forest.WellNamed := by
  let forest : Forest :=
    .text r#"{@ "#.toList
      (.element ['p'] ⟨[(['a'], ['2'])]⟩
        (.text r#"x@{}"#.toList (.element "q_1".toList ⟨[]⟩ .nil .nil))
        (.text "@(".toList .nil))
  have hsource : compile r#"{@ @p(a = 1,=x, b ,a="2"){x@{}@q_1{}}@("#.toList = .ok forest := by
    decide +kernel
  exact ⟨forest, hsource, merged_and_wellNamed_of_compile hsource⟩

end Markup

end Inlay
