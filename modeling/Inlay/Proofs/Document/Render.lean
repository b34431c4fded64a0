import Inlay.Document.Render
import Inlay.Proofs.Text.Search

namespace Inlay.Document

/-- Whether a text is another one with a backslash in every `</`: the two are put together from the
same parts, of which none has a `</` in it. -/
def EscapesClosings (css escaped : Text) : Prop :=
  ∃ parts : List Text, parts ≠ [] ∧ (∀ part ∈ parts, ¬ "</".toList <:+: part) ∧
    css = "</".toList.intercalate parts ∧ escaped = "<\\/".toList.intercalate parts

/-- Whether a text is another one with styles before the first end of a head, up to ASCII case, or
before all of it where no head ends. -/
def InsertedInHead (styles body output : Text) : Prop :=
  (∃ before rest, body = before ++ rest ∧ "</head>".toList <+: Text.lower rest ∧
    (∀ left right, body = left ++ right → left.length < before.length →
      ¬ "</head>".toList <+: Text.lower right) ∧
    output = before ++ styles ++ rest) ∨
  (¬ "</head>".toList <:+: Text.lower body ∧ output = styles ++ body)

theorem intercalate_cons_char (mark : Text) (c : Char) (part : Text) (parts : List Text) :
    mark.intercalate ((c :: part) :: parts) = c :: mark.intercalate (part :: parts) := by
  cases parts with
  | nil => simp
  | cons next parts => simp

theorem prefix_intercalate (mark part : Text) (parts : List Text) :
    part <+: mark.intercalate (part :: parts) := by
  induction part with
  | nil => exact List.nil_prefix
  | cons c part ih =>
      rw [intercalate_cons_char, List.cons_prefix_cons]
      exact ⟨rfl, ih⟩

theorem EscapesClosings.closing {css escaped : Text} (h : EscapesClosings css escaped) :
    EscapesClosings ('<' :: '/' :: css) ('<' :: '\\' :: '/' :: escaped) := by
  obtain ⟨parts, hne, hparts, rfl, rfl⟩ := h
  refine ⟨[] :: parts, by simp, ?_, ?_, ?_⟩
  · simpa using hparts
  · rw [List.intercalate_cons_of_ne_nil hne]
    rfl
  · rw [List.intercalate_cons_of_ne_nil hne]
    rfl

theorem EscapesClosings.other {c : Char} {css escaped : Text} (h : EscapesClosings css escaped)
    (hc : ¬ "</".toList <+: c :: css) : EscapesClosings (c :: css) (c :: escaped) := by
  obtain ⟨parts, hne, hparts, rfl, rfl⟩ := h
  obtain ⟨part, parts, rfl⟩ := List.exists_cons_of_ne_nil hne
  refine ⟨(c :: part) :: parts, by simp, ?_, ?_, ?_⟩
  · rw [List.forall_mem_cons] at hparts ⊢
    refine ⟨?_, hparts.2⟩
    rw [List.infix_cons_iff, not_or]
    refine ⟨?_, hparts.1⟩
    intro hbegins
    -- What begins the part also begins the text.
    have hlonger : c :: part <+: c :: "</".toList.intercalate (part :: parts) :=
      List.cons_prefix_cons.mpr ⟨rfl, prefix_intercalate _ part parts⟩
    exact hc (hbegins.trans hlonger)
  · rw [intercalate_cons_char]
  · rw [intercalate_cons_char]

theorem escapesClosings_escapeCss (css : Text) : EscapesClosings css (escapeCss css) := by
  fun_induction escapeCss css with
  | case1 => exact ⟨[[]], by simp, by decide, rfl, rfl⟩
  | case2 rest ih => exact ih.closing
  | case3 c rest hc ih =>
      refine ih.other ?_
      rintro ⟨back, hback⟩
      cases hback
      exact hc back rfl rfl

theorem insertedInHead_insertInHead (styles body : Text) :
    InsertedInHead styles body (insertInHead styles body) := by
  rw [insertInHead]
  cases hfound : Text.findFold? headEnd body with
  | none => exact Or.inr ⟨Text.findFold?_eq_none_iff.mp hfound, rfl⟩
  | some hit =>
      have hbody := Text.eq_append_of_findFold? hfound
      rw [List.append_assoc] at hbody
      refine Or.inl ⟨hit.before, hit.found ++ hit.after, hbody, ?_, ?_, by simp⟩
      · rw [Text.lower_append, Text.lower_found_of_findFold? hfound]
        exact List.prefix_append _ _
      · intro left right hsplit hleft
        exact Text.not_prefix_of_findFold? hfound hsplit hleft

theorem insertInHead_nil (body : Text) : insertInHead [] body = body := by
  rw [insertInHead]
  cases hfound : Text.findFold? headEnd body with
  | none => rfl
  | some hit =>
      simp only [List.append_nil]
      exact (Text.eq_append_of_findFold? hfound).symm

theorem insertedInHead_render (serialize : Html.Serializer) (document : Document) :
    InsertedInHead document.styleElements (document.body serialize)
      (document.render serialize) := by
  rw [render]
  split
  · rename_i hempty
    have hstyles : document.styleElements = [] := by
      rw [styleElements, List.isEmpty_iff.mp hempty, List.flatMap_nil]
    have hinserted := insertedInHead_insertInHead [] (document.body serialize)
    rwa [insertInHead_nil, ← hstyles] at hinserted
  · exact insertedInHead_insertInHead document.styleElements (document.body serialize)

end Inlay.Document
