import Inlay.Html.Standard
import Inlay.Proofs.Document.Render
import Mathlib.Data.List.Infix

namespace Inlay

namespace Text

def splitAround? (mark : Text) : Text → Option (Text × Text)
  | [] => if mark = [] then some ([], []) else none
  | c :: rest =>
      if mark.isPrefixOf (c :: rest) then some ([], (c :: rest).drop mark.length)
      else (splitAround? mark rest).map (fun parts => (c :: parts.1, parts.2))

theorem eq_append_of_splitAround? {mark text front back : Text}
    (h : splitAround? mark text = some (front, back)) : text = front ++ (mark ++ back) := by
  induction text generalizing front with
  | nil =>
      rw [splitAround?] at h
      split at h
      · rename_i hmark
        cases h
        rw [hmark]
        rfl
      · cases h
  | cons c rest ih =>
      rw [splitAround?] at h
      split at h
      · rename_i hbegins
        obtain ⟨tail, htail⟩ := List.isPrefixOf_iff_prefix.mp hbegins
        rw [← htail, List.drop_left] at h
        cases h
        exact htail.symm
      · obtain ⟨⟨inner, after⟩, hinner, hparts⟩ := Option.map_eq_some_iff.mp h
        cases hparts
        rw [ih hinner, List.cons_append]

end Text

namespace Document

theorem head?_escapeCss (css : Text) : (escapeCss css).head? = css.head? := by
  fun_cases escapeCss css <;> rfl

theorem not_infix_escapeCss (css : Text) : ¬ "</".toList <:+: escapeCss css := by
  fun_induction escapeCss css with
  | case1 => decide
  | case2 rest ih =>
      simp only [List.infix_cons_iff, not_or]
      refine ⟨?_, ?_, ?_, ih⟩
      · rintro ⟨back, hback⟩
        cases hback
      · rintro ⟨back, hback⟩
        cases hback
      · rintro ⟨back, hback⟩
        cases hback
  | case3 c rest hc ih =>
      rw [List.infix_cons_iff, not_or]
      refine ⟨?_, ih⟩
      -- The text behind a character begins as it did before it was written.
      rintro ⟨back, hback⟩
      have hhead := head?_escapeCss rest
      obtain ⟨rfl, hrest⟩ := List.cons.inj hback
      rw [← hrest] at hhead
      obtain ⟨more, hmore⟩ := List.head?_eq_some_iff.mp hhead.symm
      exact hc more rfl hmore

theorem escapeCss_eq_self {css : Text} (h : ¬ "</".toList <:+: css) : escapeCss css = css := by
  fun_induction escapeCss css with
  | case1 => rfl
  | case2 rest ih => exact absurd ⟨[], rest, rfl⟩ h
  | case3 c rest hc ih =>
      rw [List.infix_cons_iff, not_or] at h
      rw [ih h.2]

/-- The content of the style element that a text begins with, up to the first end of one, and the
text behind it. -/
def readStyle? (text : Text) : Option (Text × Text) :=
  (text.dropPrefix? "<style>".toList).bind (Text.splitAround? "</style>\n".toList)

theorem length_lt_of_readStyle? {text content after : Text}
    (h : readStyle? text = some (content, after)) : after.length < text.length := by
  obtain ⟨tail, hdrop, hsplit⟩ := Option.bind_eq_some_iff.mp h
  obtain ⟨start, htext, -⟩ := List.dropPrefix?_eq_some_iff.mp hdrop
  rw [htext, Text.eq_append_of_splitAround? hsplit]
  have hend : "</style>\n".toList.length = 9 := rfl
  simp only [List.length_append, hend]
  omega

def styleContents? (text : Text) : Option (List Text) :=
  if text = [] then some []
  else
    match _h : readStyle? text with
    | none => none
    | some (content, after) => (styleContents? after).map (content :: ·)
termination_by text.length
decreasing_by exact length_lt_of_readStyle? _h

@[simp] theorem styleContents?_nil : styleContents? [] = some [] := by
  rw [styleContents?, if_pos rfl]

theorem styleContents?_of_readStyle? {text content after : Text}
    (h : readStyle? text = some (content, after)) :
    styleContents? text = (styleContents? after).map (content :: ·) := by
  have hlength := length_lt_of_readStyle? h
  have hne : text ≠ [] := by
    rintro rfl
    cases hlength
  rw [styleContents?, if_neg hne]
  split <;> simp_all

theorem splitAround?_closing {content : Text} (h : ¬ "</".toList <:+: content)
    (name after : Text) :
    Text.splitAround? ('<' :: '/' :: name) (content ++ ('<' :: '/' :: name ++ after)) =
      some (content, after) := by
  induction content with
  | nil => simp [Text.splitAround?]
  | cons c content ih =>
      rw [List.infix_cons_iff, not_or] at h
      have hbegins : ¬ ('<' :: '/' :: name).isPrefixOf
          (c :: (content ++ ('<' :: '/' :: name ++ after))) = true := by
        rw [List.isPrefixOf_iff_prefix]
        rintro ⟨back, hback⟩
        -- A `<` at the end of the content is followed by the `<` of the closing tag.
        cases content with
        | nil => cases hback
        | cons d content =>
            obtain ⟨rfl, hrest⟩ := List.cons.inj hback
            obtain ⟨rfl, -⟩ := List.cons.inj hrest
            exact h.1 ⟨content, rfl⟩
      rw [List.cons_append, Text.splitAround?, if_neg hbegins, ih h.2]
      rfl

theorem readStyle?_styleElement (css after : Text) :
    readStyle? (styleElement css ++ after) = some (escapeCss css, after) := by
  have helement : styleElement css ++ after =
      "<style>".toList ++ (escapeCss css ++ ("</style>\n".toList ++ after)) := by
    unfold styleElement
    rw [List.append_assoc, List.append_assoc]
  have hclosing : "</style>\n".toList = '<' :: '/' :: "style>\n".toList := by decide
  rw [readStyle?, helement, List.dropPrefix?_append_of_beq _ (beq_self_eq_true _),
    Option.bind_some, hclosing, splitAround?_closing (not_infix_escapeCss css)]

theorem styleContents?_flatMap (sheets : List Text) :
    styleContents? (sheets.flatMap styleElement) = some (sheets.map escapeCss) := by
  induction sheets with
  | nil => exact styleContents?_nil
  | cons css sheets ih =>
      rw [List.flatMap_cons, styleContents?_of_readStyle? (readStyle?_styleElement css _), ih,
        Option.map_some, List.map_cons]

/-- All style sheets of a document stand in one row, before the first end of a head or first of all.
Each is written with a backslash in every `</`, so that none is left, and the contents of the
elements, each up to the first end of one, are exactly the style sheets as they are written. -/
theorem render_contains_styles (serialize : Html.Serializer) (document : Document) :
    InsertedInHead
      (document.stylesheets.flatMap fun css =>
        "<style>".toList ++ escapeCss css ++ "</style>\n".toList)
      (document.body serialize) (document.render serialize) ∧
    (∀ css, EscapesClosings css (escapeCss css) ∧ ¬ "</".toList <:+: escapeCss css ∧
      (¬ "</".toList <:+: css → escapeCss css = css)) ∧
    styleContents?
      (document.stylesheets.flatMap fun css =>
        "<style>".toList ++ escapeCss css ++ "</style>\n".toList) =
      some (document.stylesheets.map escapeCss) := by
  refine ⟨insertedInHead_render serialize document, ?_, styleContents?_flatMap document.stylesheets⟩
  intro css
  exact ⟨escapesClosings_escapeCss css, not_infix_escapeCss css, escapeCss_eq_self⟩

theorem exists_render_of_closings_in_styles :
    ∃ document : Document,
      document.stylesheets = ["<</style>\n<".toList, "a<".toList] ∧
      document.render Html.Standard.serialize =
        "<HEAD><style><<\\/style>\n<</style>\n<style>a<</style>\n</HeAd></head>".toList ∧
      InsertedInHead "<style><<\\/style>\n<</style>\n<style>a<</style>\n".toList
        (document.body Html.Standard.serialize) (document.render Html.Standard.serialize) ∧
      (¬ "</".toList <:+: "a<".toList ∧ escapeCss "a<".toList = "a<".toList) ∧
      styleContents? "<style><<\\/style>\n<</style>\n<style>a<</style>\n".toList =
        some ["<<\\/style>\n<".toList, "a<".toList] := by
  let document : Document :=
    ⟨[.plain "<HEAD></HeAd></head>".toList], ["<</style>\n<".toList, "a<".toList]⟩
  obtain ⟨hinserted, hescape, hcontents⟩ := render_contains_styles Html.Standard.serialize document
  have hrow : (document.stylesheets.flatMap fun css =>
      "<style>".toList ++ escapeCss css ++ "</style>\n".toList) =
        "<style><<\\/style>\n<</style>\n<style>a<</style>\n".toList := by
    decide +kernel
  have hsheets : document.stylesheets.map escapeCss =
      ["<<\\/style>\n<".toList, "a<".toList] := by
    decide +kernel
  have hplain : ¬ "</".toList <:+: "a<".toList := by decide
  rw [hrow] at hinserted
  rw [hrow, hsheets] at hcontents
  exact ⟨document, rfl, by decide +kernel, hinserted, ⟨hplain, (hescape _).2.2 hplain⟩, hcontents⟩

end Document

end Inlay
