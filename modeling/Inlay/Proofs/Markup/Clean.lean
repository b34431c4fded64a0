import Inlay.Proofs.Markup.RoundTrip
import Mathlib.Data.List.Infix

namespace Inlay

namespace Markup

/-- An `@` and a name, up to the `(` of a group or the `{` of a body. -/
inductive HeadStart : Text → Prop where
  | group {name : Text} (hname : IsTagName name) : HeadStart ('@' :: (name ++ ['(']))
  | body {name blanks : Text} (hname : IsTagName name)
      (hblanks : ∀ c ∈ blanks, Text.isBlank c = true) :
      HeadStart ('@' :: (name ++ (blanks ++ ['{'])))

def HoldsHeadStart (content : Text) : Prop :=
  ∃ start, HeadStart start ∧ start <:+: content

def beginsHead : Text → Bool
  | '@' :: rest =>
      let after := rest.dropWhile isNameChar
      !(rest.takeWhile isNameChar).isEmpty &&
        (after.head? == some '(' || (after.dropWhile Text.isBlank).head? == some '{')
  | _ => false

theorem beginsHead_of_headStart {start : Text} (h : HeadStart start) (back : Text) :
    beginsHead (start ++ back) = true := by
  cases h with
  | @group name hname =>
      obtain ⟨hne, hchars⟩ := hname
      have hmark : isNameChar '(' = false := by decide
      have htake := Text.takeWhile_append_cons hchars hmark back
      have hdrop := Text.dropWhile_append_cons hchars hmark back
      simp [beginsHead, htake, hdrop, hne]
  | @body name blanks hname hblanks =>
      obtain ⟨hne, hchars⟩ := hname
      have hopening : Text.isBlank '{' = false := by decide
      have hbody := Text.dropWhile_append_cons hblanks hopening back
      -- The name ends at the first blank, or at the `{` where there is none.
      cases blanks with
      | nil =>
          have hmark : isNameChar '{' = false := by decide
          have htake := Text.takeWhile_append_cons hchars hmark back
          have hdrop := Text.dropWhile_append_cons hchars hmark back
          rw [List.nil_append] at hbody
          simp [beginsHead, htake, hdrop, hbody, hne]
      | cons c blanks =>
          have hc : isNameChar c = false := isNameChar_of_isBlank (hblanks c (by simp))
          have htake := Text.takeWhile_append_cons hchars hc (blanks ++ '{' :: back)
          have hdrop := Text.dropWhile_append_cons hchars hc (blanks ++ '{' :: back)
          rw [List.cons_append] at hbody
          simp [beginsHead, htake, hdrop, hbody, hne]

theorem exists_headStart_of_beginsHead {text : Text} (h : beginsHead text = true) :
    ∃ start, HeadStart start ∧ start <+: text := by
  unfold beginsHead at h
  split at h
  · rename_i rest
    have hrest := List.takeWhile_append_dropWhile (p := isNameChar) (l := rest)
    simp only [Bool.and_eq_true, Bool.not_eq_true', List.isEmpty_eq_false_iff, Bool.or_eq_true,
      beq_iff_eq] at h
    obtain ⟨hne, hmark⟩ := h
    have hname : IsTagName (rest.takeWhile isNameChar) :=
      ⟨hne, fun c hc => List.mem_takeWhile_imp hc⟩
    rcases hmark with hmark | hmark
    · obtain ⟨back, hback⟩ := List.head?_eq_some_iff.mp hmark
      refine ⟨_, .group hname, back, ?_⟩
      rw [hback] at hrest
      simpa using hrest
    · obtain ⟨back, hback⟩ := List.head?_eq_some_iff.mp hmark
      have hafter := List.takeWhile_append_dropWhile (p := Text.isBlank)
        (l := rest.dropWhile isNameChar)
      have hblanks : ∀ c ∈ (rest.dropWhile isNameChar).takeWhile Text.isBlank,
          Text.isBlank c = true := fun c hc => List.mem_takeWhile_imp hc
      refine ⟨_, .body hname hblanks, back, ?_⟩
      rw [hback] at hafter
      rw [← hafter] at hrest
      simpa using hrest
  · cases h

theorem holdsHeadStart_iff {content : Text} :
    HoldsHeadStart content ↔ ∃ back ∈ content.tails, beginsHead back = true := by
  constructor
  · rintro ⟨start, hstart, front, back, rfl⟩
    refine ⟨start ++ back, ?_, beginsHead_of_headStart hstart back⟩
    rw [List.mem_tails, List.append_assoc]
    exact List.suffix_append front (start ++ back)
  · rintro ⟨back, hback, hbegins⟩
    obtain ⟨start, hstart, hfirst⟩ := exists_headStart_of_beginsHead hbegins
    have hsuffix := (List.mem_tails back content).mp hback
    exact ⟨start, hstart, hfirst.isInfix.trans hsuffix.isInfix⟩

instance (content : Text) : Decidable (HoldsHeadStart content) :=
  decidable_of_iff (∃ back ∈ content.tails, beginsHead back = true) holdsHeadStart_iff.symm

/-! A text without the start of a head makes no head together with an element behind it, since that
begins with an `@` of its own. -/

theorem IsTagName.not_mem {tag : Text} (h : IsTagName tag) {c : Char}
    (hc : isNameChar c = false) : c ∉ tag := by
  intro hmem
  rw [h.2 c hmem] at hc
  cases hc

theorem exists_headStart_of_scan? {content back body : Text} {head : Head}
    (hback : back = [] ∨ back.head? = some '@')
    (h : Head.scan? ('@' :: (content ++ back)) = some (head, body)) :
    ∃ start, HeadStart start ∧ start <+: '@' :: content := by
  obtain ⟨opening, hread, hcomplete⟩ := Option.bind_eq_some_iff.mp h
  obtain ⟨blanks, hblanks, hafter, -⟩ := Head.exists_blanks_of_complete? hcomplete
  obtain ⟨hne, hchars, hgroup⟩ := Opening.cases_of_read? hread
  have hname : IsTagName opening.name := ⟨hne, hchars⟩
  have hmark : '@' ∉ opening.name := hname.not_mem (by decide)
  rcases hgroup with ⟨-, htext⟩ | ⟨inside, -, -, htext⟩
  · rw [hafter] at htext
    have hblank : '@' ∉ blanks := by
      intro hmem
      exact absurd (hblanks '@' hmem) (by decide)
    have hstretch : '@' ∉ opening.name ++ (blanks ++ ['{']) := by simp [hmark, hblank]
    have hbody : content ++ back = opening.name ++ (blanks ++ ['{']) ++ body := by
      simpa using htext
    obtain ⟨more, rfl⟩ := Text.exists_eq_append_of_not_mem hback hstretch hbody
    exact ⟨_, .body hname hblanks, more, rfl⟩
  · have hstretch : '@' ∉ opening.name ++ ['('] := by simp [hmark]
    have hbody : content ++ back = opening.name ++ ['('] ++ inside := by
      simpa using htext
    obtain ⟨more, rfl⟩ := Text.exists_eq_append_of_not_mem hback hstretch hbody
    exact ⟨_, .group hname, more, rfl⟩

theorem headFree_of_not_holdsHeadStart {content back : Text}
    (hback : back = [] ∨ back.head? = some '@') (h : ¬ HoldsHeadStart content) :
    HeadFree content back := by
  induction content with
  | nil => trivial
  | cons c content ih =>
      refine ⟨?_, ih ?_⟩
      · by_cases hc : c = '@'
        · subst hc
          cases hscan : Head.scan? ('@' :: (content ++ back)) with
          | none => rfl
          | some pair =>
              obtain ⟨start, hstart, hfirst⟩ := exists_headStart_of_scan? hback hscan
              exact absurd ⟨start, hstart, hfirst.isInfix⟩ h
        · exact Head.scan?_cons_of_ne hc (content ++ back)
      · rintro ⟨start, hstart, hwithin⟩
        exact h ⟨start, hstart, hwithin.trans (List.suffix_cons c content).isInfix⟩

theorem Balanced.intercalate {parts : List Text} (h : ∀ part ∈ parts, Balanced part) :
    Balanced (List.intercalate [','] parts) := by
  induction parts with
  | nil => decide
  | cons part parts ih =>
      have hpart : Balanced part := h part (by simp)
      cases parts with
      | nil => simpa [List.intercalate] using hpart
      | cons next parts =>
          have hcomma : Balanced [','] := by decide
          have hparts := ih (fun other hmem => h other (by simp [hmem]))
          have hall := hpart.append (hcomma.append hparts)
          simpa [List.intercalate] using hall

theorem balanced_printedEntry {entry : Text × Text} (hname : Balanced entry.1)
    (hvalue : Balanced entry.2) : Balanced (printedEntry entry) := by
  have hopening : Balanced ['=', '"'] := by decide
  have hclosing : Balanced ['"'] := by decide
  exact ((hname.append hopening).append hvalue).append hclosing

theorem balanced_attributes_toAht {attributes : Attributes}
    (h : ∀ entry ∈ attributes.entries, Balanced entry.1 ∧ Balanced entry.2) :
    Balanced attributes.toAht := by
  by_cases hempty : attributes.entries = []
  · have hnone : attributes.toAht = [] := by simp [Attributes.toAht, Attributes.isEmpty, hempty]
    rw [hnone]
    decide
  · have hopening : Balanced ['('] := by decide
    have hclosing : Balanced [')'] := by decide
    have hentries : Balanced (List.intercalate [','] (attributes.entries.map printedEntry)) := by
      apply Balanced.intercalate
      intro part hpart
      obtain ⟨entry, hentry, rfl⟩ := List.mem_map.mp hpart
      exact balanced_printedEntry (h entry hentry).1 (h entry hentry).2
    rw [toAht_of_entries hempty]
    exact hopening.append (hentries.append hclosing)

end Markup

open Markup

namespace Forest

structure BracesBalanced (forest : Forest) : Prop where
  texts : ∀ content ∈ forest.texts, Balanced content
  attributes : ∀ root ∈ forest.elements, ∀ entry ∈ root.attributes.entries,
    Balanced entry.1 ∧ Balanced entry.2

instance (forest : Forest) : Decidable forest.BracesBalanced :=
  decidable_of_iff
    ((∀ content ∈ forest.texts, Balanced content) ∧
      ∀ root ∈ forest.elements, ∀ entry ∈ root.attributes.entries,
        Balanced entry.1 ∧ Balanced entry.2)
    ⟨fun h => ⟨h.1, h.2⟩, fun h => ⟨h.texts, h.attributes⟩⟩

structure Clean (forest : Forest) : Prop where
  named : forest.WellNamed
  values : forest.QuoteFree
  texts : ∀ content ∈ forest.texts, ¬ HoldsHeadStart content
  inside : ∀ root ∈ forest.elements, root.children.BracesBalanced

instance (forest : Forest) : Decidable forest.Clean :=
  decidable_of_iff
    (forest.WellNamed ∧ forest.QuoteFree ∧ (∀ content ∈ forest.texts, ¬ HoldsHeadStart content) ∧
      ∀ root ∈ forest.elements, root.children.BracesBalanced)
    ⟨fun h => ⟨h.1, h.2.1, h.2.2.1, h.2.2.2⟩, fun h => ⟨h.named, h.values, h.texts, h.inside⟩⟩

theorem balanced_toAht {forest : Forest} (hnamed : forest.WellNamed)
    (h : forest.BracesBalanced) : Balanced forest.toAht := by
  obtain ⟨htexts, hattributes⟩ := h
  induction forest with
  | nil => decide
  | text content rest ih =>
      obtain ⟨hcontent, hrest⟩ := List.forall_mem_cons.mp htexts
      rw [toAht_text]
      exact hcontent.append (ih hnamed hrest hattributes)
  | element tag attributes children rest ihChildren ihRest =>
      obtain ⟨⟨htag, -⟩, hnamedChildren, hnamedRest⟩ := wellNamed_element.mp hnamed
      obtain ⟨htextsChildren, htextsRest⟩ := List.forall_mem_append.mp htexts
      obtain ⟨hown, hothers⟩ := List.forall_mem_cons.mp hattributes
      obtain ⟨hchildren, hrest⟩ := List.forall_mem_append.mp hothers
      have hmark : Balanced ['@'] := by decide
      have hname : Balanced tag :=
        .of_braceless (htag.not_mem (by decide)) (htag.not_mem (by decide))
      have hbody := (ihChildren hnamedChildren htextsChildren hchildren).enclose
        (ihRest hnamedRest htextsRest hrest)
      rw [toAht_element]
      exact hmark.append (hname.append ((balanced_attributes_toAht hown).append hbody))

theorem Clean.of_text {content : Text} {rest : Forest} (h : (text content rest).Clean) :
    ¬ HoldsHeadStart content ∧ rest.Clean := by
  obtain ⟨hcontent, hrest⟩ := List.forall_mem_cons.mp h.texts
  exact ⟨hcontent, h.named, h.values, hrest, h.inside⟩

theorem Clean.of_element {tag : Text} {attributes : Attributes} {children rest : Forest}
    (h : (element tag attributes children rest).Clean) :
    children.BracesBalanced ∧ children.Clean ∧ rest.Clean := by
  obtain ⟨-, hnamedChildren, hnamedRest⟩ := wellNamed_element.mp h.named
  obtain ⟨-, hvaluesChildren, hvaluesRest⟩ := quoteFree_element.mp h.values
  obtain ⟨htextsChildren, htextsRest⟩ := List.forall_mem_append.mp h.texts
  obtain ⟨hown, hothers⟩ := List.forall_mem_cons.mp h.inside
  obtain ⟨hchildren, hrest⟩ := List.forall_mem_append.mp hothers
  exact ⟨hown, ⟨hnamedChildren, hvaluesChildren, htextsChildren, hchildren⟩,
    ⟨hnamedRest, hvaluesRest, htextsRest, hrest⟩⟩

theorem head?_toAht_of_not_text {forest : Forest} (h : forest.beginsWithText = false) :
    forest.toAht = [] ∨ forest.toAht.head? = some '@' := by
  cases forest with
  | nil => exact Or.inl rfl
  | text content rest => cases h
  | element tag attributes children rest =>
      rw [toAht_element]
      exact Or.inr rfl

theorem Clean.readable {forest : Forest} (h : forest.Clean) (hmerged : forest.Merged) :
    forest.Readable := by
  induction forest with
  | nil => trivial
  | text content rest ih =>
      obtain ⟨-, hnext, hmergedRest⟩ := hmerged
      obtain ⟨hcontent, hrest⟩ := h.of_text
      exact ⟨headFree_of_not_holdsHeadStart (head?_toAht_of_not_text hnext) hcontent,
        ih hrest hmergedRest⟩
  | element tag attributes children rest ihChildren ihRest =>
      obtain ⟨hmergedChildren, hmergedRest⟩ := hmerged
      obtain ⟨hbalanced, hchildren, hrest⟩ := h.of_element
      exact ⟨balanced_toAht hchildren.named hbalanced, ihChildren hchildren hmergedChildren,
        ihRest hrest hmergedRest⟩

end Forest

namespace Markup

/-- The print of a forest compiles to its normal form, if that is clean. -/
theorem compile_toAht_of_clean {forest : Forest} (h : forest.normal.Clean) :
    compile forest.toAht = .ok forest.normal := by
  have hmerged : forest.normal.Merged := Forest.merged_normal forest
  have hprint : compile forest.toAht = descend forest.toAht :=
    State.result_run_initial forest.toAht
  rw [hprint, ← Forest.toAht_normal]
  exact descend_toAht hmerged h.named h.values (h.readable hmerged)

theorem exists_compile_toAht_of_split_texts : ∃ forest : Forest,
    forest.normal.Clean ∧
      forest.toAht = r#"a@ {@p(k="}"){1@b@q(x y="{,)}",w=""){{@}}{}}@"#.toList ∧
      compile forest.toAht =
        .ok (.text ['a', '@', ' ', '{']
          (.element ['p'] ⟨[(['k'], ['}'])]⟩
            (.text "1@b".toList
              (.element ['q'] ⟨[("x y".toList, "{,)}".toList), (['w'], [])]⟩
                (.text "{@}".toList .nil)
                (.text ['{', '}'] .nil)))
            (.text ['@'] .nil))) := by
  let forest : Forest :=
    .text ['a'] (.text [] (.text ['@', ' ', '{']
      (.element ['p'] ⟨[(['k'], ['}'])]⟩
        (.text ['1'] (.text "@b".toList (.text []
          (.element ['q'] ⟨[("x y".toList, "{,)}".toList), (['w'], [])]⟩
            (.text "{@}".toList .nil)
            (.text ['{'] (.text ['}'] .nil))))))
        (.text ['@'] .nil))))
  have hclean : forest.normal.Clean := by decide
  exact ⟨forest, hclean, by decide, compile_toAht_of_clean hclean⟩

end Markup

end Inlay
