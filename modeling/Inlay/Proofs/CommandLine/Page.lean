import Inlay.CommandLine.Page
import Inlay.Proofs.Compilation
import Inlay.Proofs.Document.Division
import Inlay.Proofs.Document.Render
import Inlay.Proofs.Style.Variables
import Inlay.Proofs.Template

namespace Inlay

/-- What a segment of a text is written as. -/
def Segment.outcome (serialize : Html.Serializer) (options : CompileOptions)
    (template : Template) : Segment → Text
  | plain content => content
  | block slot =>
      match slot.dialect with
      | .stylesheet =>
          match compileStylesheet options slot.source with
          | .ok _ => []
          | .error _ => slot.raw
      | .markup =>
          match Markup.compile slot.source with
          | .ok forest => Html.renderForest serialize (template.fill forest)
          | .error _ => slot.raw

def Slot.Fails (options : CompileOptions) (slot : Slot) : Prop :=
  ∃ error, compileBlock options slot.dialect slot.source = .error error

theorem Slot.not_fails_iff {options : CompileOptions} {slot : Slot} :
    ¬ slot.Fails options ↔ (compileBlock options slot.dialect slot.source).isOk = true := by
  rw [Fails]
  cases compileBlock options slot.dialect slot.source <;> simp [Except.isOk, Except.toBool]

namespace Document

theorem waiting_parse (tokenize : Html.Tokenizer) (text : Text) (dialect : Dialect) :
    waiting dialect (parse tokenize text).segments =
      (parse tokenize text).slots.filter (fun slot => slot.dialect = dialect) := by
  rw [waiting]
  apply List.filter_congr
  intro slot hslot
  obtain ⟨segment, hsegment, hslot⟩ := List.mem_filterMap.mp hslot
  cases segment with
  | plain content => cases hslot
  | block slot =>
      cases hslot
      rw [Slot.waits, Slot.isPending, replacement_of_block_mem_parse hsegment, Option.isNone_none,
        Bool.and_true]

end Document

namespace CommandLine

/-- The parts of the page that a run with given settings makes of a text: a template with the last
value of each key, a rule for the variables if there are any, and a way to write style sheets. -/
structure PageParts (html : Html.Engine) (settings : Settings) (text : Text) where
  template : Template
  marker_eq : template.marker = settings.marker.getD "template-value".toList
  get?_eq : ∀ key, template.get? key = settings.values.reverse.lookup key
  rootRule : Option Text
  rootRule_eq_none_iff : rootRule = none ↔ settings.styleVariables = []
  isRootRule : ∀ css ∈ rootRule, Style.Variables.IsRootRule settings.styleVariables css
  escape : Text → Text
  escapes : ∀ css, Document.EscapesClosings css (escape css)

namespace PageParts

variable {html : Html.Engine} {settings : Settings} {text : Text}
  (parts : PageParts html settings text)

def body : Text :=
  (Document.parse html.tokenize text).segments.flatMap
    (Segment.outcome html.serialize { strictStylesheets := settings.strictStyles } parts.template)

def sheets : List Text :=
  ((Document.parse html.tokenize text).slots.filter
      (fun slot => slot.dialect = .stylesheet)).filterMap
      (fun slot =>
        (compileStylesheet { strictStylesheets := settings.strictStyles } slot.source).toOption) ++
    parts.rootRule.toList

def styles : Text :=
  parts.sheets.flatMap fun css => "<style>".toList ++ parts.escape css ++ "</style>\n".toList

end PageParts

theorem fillSlots_eq (template : Template) (document : Document) :
    fillSlots template document = document.mapForests template.fill := by
  rw [fillSlots]
  split
  · rename_i hempty
    have hfill : template.fill = id :=
      funext (Template.fill_of_get?_eq_none (Template.get?_of_isEmpty hempty))
    have hkeep : (Segment.mapSlot fun slot =>
        { slot with replacement := slot.replacement.map id }) = id := by
      funext segment
      cases segment <;> simp [Segment.mapSlot]
    rw [Document.mapForests, hfill, hkeep, List.map_id]
  · rfl

theorem segments_addVariables (store : Style.Variables) (document : Document) :
    (addVariables store document).segments = document.segments := by
  rw [addVariables]
  split <;> rfl

theorem stylesheets_addVariables (store : Style.Variables) (document : Document) :
    (addVariables store document).stylesheets =
      document.stylesheets ++ if store.isEmpty then [] else [store.toCss] := by
  rw [addVariables]
  split <;> simp

namespace Settings

theorem marker_template (settings : Settings) :
    settings.template.marker = settings.marker.getD Template.defaultMarker := by
  rw [template, Template.marker_setMany]
  rfl

theorem get?_template (settings : Settings) (key : Text) :
    settings.template.get? key = settings.values.reverse.lookup key := by
  rw [template, Template.get?_setMany]
  simp [Template.get?, Template.withMarker, Template.empty]

theorem isEmpty_rootVariables (settings : Settings) :
    settings.rootVariables.isEmpty = settings.styleVariables.isEmpty := by
  rw [rootVariables, Style.Variables.isEmpty_setMany]
  rfl

def pageParts (html : Html.Engine) (settings : Settings) (text : Text) :
    PageParts html settings text where
  template := settings.template
  marker_eq := settings.marker_template
  get?_eq := settings.get?_template
  rootRule :=
    if settings.styleVariables = [] then none else some settings.rootVariables.toCss
  rootRule_eq_none_iff := by
    split <;> simp [*]
  isRootRule := by
    intro css hcss
    split at hcss
    · cases hcss
    · rename_i hvariables
      cases hcss
      exact Style.Variables.isRootRule_toCss hvariables
  escape := Document.escapeCss
  escapes := Document.escapesClosings_escapeCss

theorem toList_rootRule (html : Html.Engine) (settings : Settings) (text : Text) :
    (settings.pageParts html text).rootRule.toList =
      if settings.rootVariables.isEmpty then [] else [settings.rootVariables.toCss] := by
  rw [isEmpty_rootVariables]
  simp only [pageParts, List.isEmpty_iff]
  split <;> rfl

end Settings

theorem render_filled {slot : Slot} (serialize : Html.Serializer) (options : CompileOptions)
    (template : Template) (h : slot.replacement = none) :
    (Segment.block
      { slot.compiled options with
        replacement := (slot.compiled options).replacement.map template.fill }).render serialize =
      (Segment.block slot).outcome serialize options template := by
  have hpending : slot.isPending = true := Option.isNone_iff_eq_none.mpr h
  rw [Slot.compiled_of_isPending hpending, Segment.outcome]
  cases slot.dialect with
  | stylesheet =>
      simp only [compileBlock]
      cases compileStylesheet options slot.source <;> rfl
  | markup =>
      simp only [compileBlock]
      cases Markup.compile slot.source <;> rfl

def Settings.document (tokenize : Html.Tokenizer) (settings : Settings) (text : Text) :
    Document :=
  addVariables settings.rootVariables
    (fillSlots settings.template
      (compileBlocks settings.options (Document.parse tokenize text)).host)

variable (html : Html.Engine) (settings : Settings) (text : Text)

theorem body_document :
    (settings.document html.tokenize text).body html.serialize =
      (settings.pageParts html text).body := by
  rw [Settings.document, Document.body, segments_addVariables, fillSlots_eq, Document.mapForests,
    Document.segments_compileBlocks, List.map_map, List.flatMap_map, PageParts.body]
  apply List.flatMap_congr
  intro segment hsegment
  cases segment with
  | plain content => rfl
  | block slot =>
      exact render_filled html.serialize settings.options settings.template
        (Document.replacement_of_block_mem_parse hsegment)

theorem stylesheets_document :
    (settings.document html.tokenize text).stylesheets = (settings.pageParts html text).sheets := by
  rw [Settings.document, stylesheets_addVariables, fillSlots_eq, Document.stylesheets_mapForests,
    Document.stylesheets_compileBlocks, Document.waiting_parse, PageParts.sheets,
    Settings.toList_rootRule]
  rfl

theorem Page.clean_ofText_iff :
    (Page.ofText html settings text).clean = true ↔
      ∀ slot ∈ (Document.parse html.tokenize text).slots, ¬ slot.Fails settings.options := by
  obtain ⟨-, -, hfailures⟩ :=
    Document.report_compileBlocks settings.options (Document.parse html.tokenize text)
  rw [Page.ofText, Report.isClean, List.isEmpty_iff, hfailures, List.append_eq_nil_iff,
    ← failure?_stylesheet, ← failure?_markup, failures_eq_nil_iff, failures_eq_nil_iff,
    Document.waiting_parse, Document.waiting_parse]
  simp only [List.mem_filter, decide_eq_true_eq, Slot.not_fails_iff]
  constructor
  · rintro ⟨hstylesheets, hmarkup⟩ slot hslot
    cases hdialect : slot.dialect with
    | stylesheet => exact hstylesheets slot ⟨hslot, hdialect⟩
    | markup => exact hmarkup slot ⟨hslot, hdialect⟩
  · intro hall
    exact ⟨fun slot h => h.2 ▸ hall slot h.1, fun slot h => h.2 ▸ hall slot h.1⟩

theorem Page.insertedInHead_ofText :
    Document.InsertedInHead (settings.pageParts html text).styles
      (settings.pageParts html text).body (Page.ofText html settings text).output := by
  have hinserted :=
    Document.insertedInHead_render html.serialize (settings.document html.tokenize text)
  rw [Document.styleElements, body_document, stylesheets_document] at hinserted
  exact hinserted

theorem Page.status_ofText :
    ((Page.ofText html settings text).status settings = 2 ↔ settings.denyFailures = true ∧
      ∃ slot ∈ (Document.parse html.tokenize text).slots, slot.Fails settings.options) ∧
    ((Page.ofText html settings text).status settings ≠ 2 →
      (Page.ofText html settings text).status settings = 0) := by
  have hfails : (∃ slot ∈ (Document.parse html.tokenize text).slots,
      slot.Fails settings.options) ↔ (Page.ofText html settings text).clean = false := by
    rw [← Bool.not_eq_true, Page.clean_ofText_iff]
    simp
  rw [hfails, Page.status]
  cases settings.denyFailures <;> cases (Page.ofText html settings text).clean <;> simp

end CommandLine

end Inlay
