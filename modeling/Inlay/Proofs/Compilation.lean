import Inlay.Compilation

namespace Inlay

def Artifact.forest : Artifact → Forest
  | .css _ => .nil
  | .nodes forest => forest

def Artifact.css? : Artifact → Option Text
  | .css text => some text
  | .nodes _ => none

namespace Slot

def waits (dialect : Dialect) (slot : Slot) : Bool :=
  slot.dialect = dialect && slot.isPending

def compiled (options : CompileOptions) (slot : Slot) : Slot :=
  if slot.isPending then
    match compileBlock options slot.dialect slot.source with
    | .ok artifact => slot.replace artifact.forest
    | .error _ => slot
  else
    slot

/-- A block after the blocks of one dialect have been compiled. -/
def compiledAs (options : CompileOptions) (dialect : Dialect) (slot : Slot) : Slot :=
  if slot.dialect = dialect then slot.compiled options else slot

/-- The failure of a block that is the one of a given number among those of its dialect. -/
def failure? {α : Type} (compile : Text → Except CompileError α) (dialect : Dialect)
    (entry : Slot × Nat) : Option BlockFailure :=
  match compile entry.1.source with
  | .ok _ => none
  | .error error => some ⟨dialect, entry.2, error⟩

end Slot

def Document.waiting (dialect : Dialect) (segments : List Segment) : List Slot :=
  (segments.filterMap Segment.slot?).filter (Slot.waits dialect)

namespace Slot

variable {options : CompileOptions} {dialect : Dialect} {slot : Slot}

theorem waits_iff : slot.waits dialect = true ↔ slot.dialect = dialect ∧ slot.isPending = true := by
  simp [waits]

theorem compiledAs_of_waits (h : slot.waits dialect = true) :
    slot.compiledAs options dialect = slot.compiled options := by
  rw [compiledAs, if_pos (waits_iff.mp h).1]

theorem compiledAs_of_not_waits (h : ¬ slot.waits dialect = true) :
    slot.compiledAs options dialect = slot := by
  rw [waits_iff, not_and] at h
  rw [compiledAs]
  split
  · rename_i hdialect
    rw [compiled, if_neg (h hdialect)]
  · rfl

theorem compiled_of_not_isPending (h : slot.isPending = false) : slot.compiled options = slot := by
  rw [compiled, if_neg (by simp [h])]

theorem compiled_of_isPending (h : slot.isPending = true) :
    slot.compiled options =
      { slot with
        replacement :=
          (compileBlock options slot.dialect slot.source).toOption.map Artifact.forest } := by
  have hnone : slot.replacement = none := Option.isNone_iff_eq_none.mp h
  rw [compiled, if_pos h]
  cases compileBlock options slot.dialect slot.source with
  | ok artifact => rfl
  | error error =>
      cases slot
      cases hnone
      rfl

theorem dialect_compiled (options : CompileOptions) (slot : Slot) :
    (slot.compiled options).dialect = slot.dialect := by
  rw [compiled]
  split
  · split <;> rfl
  · rfl

theorem waits_compiledAs {other : Dialect} (h : other ≠ dialect) :
    (slot.compiledAs options dialect).waits other = slot.waits other := by
  rw [compiledAs]
  split
  · rename_i hdialect
    have hne : slot.dialect ≠ other := fun hother => h (hother.symm.trans hdialect)
    simp [waits, dialect_compiled, hne]
  · rfl

theorem compiledAs_compiledAs (options : CompileOptions) (slot : Slot) :
    (slot.compiledAs options .stylesheet).compiledAs options .markup = slot.compiled options := by
  cases hdialect : slot.dialect <;> simp [compiledAs, dialect_compiled, hdialect]

end Slot

/-! Walking along the segments, a block that waits is taken and everything else is passed over. -/

theorem Segment.waits_or_passed (dialect : Dialect) (segment : Segment) :
    (∃ slot, segment = .block slot ∧ slot.waits dialect = true) ∨
      ∀ slot, segment = .block slot → ¬ slot.waits dialect = true := by
  by_cases hwaits : ∃ slot, segment = .block slot ∧ slot.waits dialect = true
  · exact Or.inl hwaits
  · exact Or.inr fun slot hslot hwait => hwaits ⟨slot, hslot, hwait⟩

namespace Document

variable {dialect : Dialect}

theorem waiting_of_waits {slot : Slot} (h : slot.waits dialect = true) (rest : List Segment) :
    waiting dialect (.block slot :: rest) = slot :: waiting dialect rest := by
  simp [waiting, Segment.slot?, h]

theorem pendingFrom_of_waits {slot : Slot} (h : slot.waits dialect = true) (index : Nat)
    (rest : List Segment) :
    pendingFrom dialect index (.block slot :: rest) =
      ⟨slot.dialect, slot.source, index⟩ :: pendingFrom dialect (index + 1) rest := by
  have hslot := Slot.waits_iff.mp h
  rw [pendingFrom, if_pos hslot, hslot.1]

variable {segment : Segment}
  (h : ∀ slot, segment = .block slot → ¬ slot.waits dialect = true)

include h

theorem waiting_of_not_waits (rest : List Segment) :
    waiting dialect (segment :: rest) = waiting dialect rest := by
  cases segment with
  | plain content => rfl
  | block slot => simp [waiting, Segment.slot?, h slot rfl]

theorem pendingFrom_of_not_waits (index : Nat) (rest : List Segment) :
    pendingFrom dialect index (segment :: rest) = pendingFrom dialect (index + 1) rest := by
  cases segment with
  | plain content => rfl
  | block slot =>
      have hslot := h slot rfl
      rw [Slot.waits_iff] at hslot
      rw [pendingFrom, if_neg hslot]

theorem mapSlot_compiledAs_of_not_waits (options : CompileOptions) :
    segment.mapSlot (Slot.compiledAs options dialect) = segment := by
  cases segment with
  | plain content => rfl
  | block slot => rw [Segment.mapSlot, Slot.compiledAs_of_not_waits (h slot rfl)]

omit h

theorem waiting_map_compiledAs {options : CompileOptions} {other : Dialect} (hne : other ≠ dialect)
    (segments : List Segment) :
    waiting other (segments.map (Segment.mapSlot (Slot.compiledAs options dialect))) =
      waiting other segments := by
  induction segments with
  | nil => rfl
  | cons segment rest ih =>
      rw [List.map_cons]
      obtain ⟨slot, rfl, hwaits⟩ | hpassed := segment.waits_or_passed other
      · have hslot : slot.compiledAs options dialect = slot := by
          rw [Slot.compiledAs, if_neg]
          rwa [(Slot.waits_iff.mp hwaits).1]
        rw [Segment.mapSlot, hslot, waiting_of_waits hwaits, waiting_of_waits hwaits, ih]
      · have hmapped : ∀ slot, segment.mapSlot (Slot.compiledAs options dialect) = .block slot →
            ¬ slot.waits other = true := by
          intro slot hslot
          cases segment with
          | plain content => cases hslot
          | block earlier =>
              cases hslot
              rw [Slot.waits_compiledAs hne]
              exact hpassed earlier rfl
        rw [waiting_of_not_waits hpassed, waiting_of_not_waits hmapped, ih]

end Document

def Report.count (report : Report) : Dialect → Nat
  | .stylesheet => report.stylesheets
  | .markup => report.markup

namespace Report

theorem count_succeed (report : Report) (done dialect : Dialect) :
    (report.succeed done).count dialect =
      report.count dialect + (if dialect = done then 1 else 0) := by
  cases done <;> cases dialect <;> rfl

@[simp] theorem failures_succeed (report : Report) (dialect : Dialect) :
    (report.succeed dialect).failures = report.failures := by
  cases dialect <;> rfl

@[simp] theorem count_fail (report : Report) (failure : BlockFailure) (dialect : Dialect) :
    (report.fail failure).count dialect = report.count dialect := by
  cases dialect <;> rfl

end Report

namespace Document

/-- Putting a forest in the place of a block leaves the segments around it as they are. -/
theorem segments_replace {document : Document} {front after : List Segment} {slot : Slot}
    (hsegments : document.segments = front ++ .block slot :: after) (forest : Forest) :
    (document.replace front.length forest).segments =
      front ++ .block (slot.replace forest) :: after := by
  rw [replace, hsegments]
  exact List.modifyTailIdx_add (List.modifyHead (Segment.mapSlot (Slot.replace forest))) 0 front
    (.block slot :: after)

theorem accept_eq (document : Document) (index : Nat) (artifact : Artifact) :
    Host.accept document index artifact =
      { segments := (document.replace index artifact.forest).segments
        stylesheets := document.stylesheets ++ artifact.css?.toList } := by
  cases artifact with
  | css text => rfl
  | nodes forest =>
      rw [Artifact.css?, Option.toList_none, List.append_nil]
      rfl

end Document

namespace Compilation

variable {options : CompileOptions} {dialect : Dialect}

/-- What the compiling of blocks of a dialect adds to what has been done before: the style sheets,
the count and the failures, all in the order of the blocks. -/
structure Adds (options : CompileOptions) (dialect : Dialect) (slots : List Slot) (index : Nat)
    (before after : Compilation Document) : Prop where
  stylesheets : after.host.stylesheets = before.host.stylesheets ++
    slots.filterMap (fun slot =>
      (compileBlock options dialect slot.source).toOption.bind Artifact.css?)
  count : ∀ other, after.report.count other = before.report.count other +
    if other = dialect then
      slots.countP (fun slot => (compileBlock options dialect slot.source).isOk)
    else
      0
  failures : after.report.failures = before.report.failures ++
    (slots.zipIdx index).filterMap (Slot.failure? (compileBlock options dialect) dialect)

namespace Adds

theorem nil (index : Nat) (compilation : Compilation Document) :
    Adds options dialect [] index compilation compilation where
  stylesheets := by simp
  count := by simp
  failures := by simp

theorem cons {slot : Slot} {slots : List Slot} {index : Nat}
    {before between after : Compilation Document}
    (hfirst : Adds options dialect [slot] index before between)
    (hrest : Adds options dialect slots (index + 1) between after) :
    Adds options dialect (slot :: slots) index before after where
  stylesheets := by
    rw [hrest.stylesheets, hfirst.stylesheets, List.append_assoc, ← List.filterMap_append,
      List.singleton_append]
  count other := by
    rw [hrest.count, hfirst.count, Nat.add_assoc]
    split
    · rw [← List.countP_append, List.singleton_append]
    · rfl
  failures := by
    rw [hrest.failures, hfirst.failures, List.append_assoc, ← List.filterMap_append]
    rfl

end Adds

variable (options)

/-- Compiling a pending block changes its own segment and no other. -/
theorem compile_slot {compilation : Compilation Document} {front after : List Segment} {slot : Slot}
    (index : Nat) (hsegments : compilation.host.segments = front ++ .block slot :: after)
    (hpending : slot.isPending = true) :
    (compilation.compile options (⟨slot.dialect, slot.source, front.length⟩, index)).host.segments =
        front ++ .block (slot.compiled options) :: after ∧
      Adds options slot.dialect [slot] index compilation
        (compilation.compile options (⟨slot.dialect, slot.source, front.length⟩, index)) := by
  cases hblock : compileBlock options slot.dialect slot.source with
  | ok artifact =>
      simp only [compile, hblock, Document.accept_eq, Slot.compiled, if_pos hpending]
      refine ⟨Document.segments_replace hsegments artifact.forest, ?_, ?_, ?_⟩
      · cases hcss : artifact.css? <;> simp [hblock, Except.toOption, hcss]
      · intro other
        rw [Report.count_succeed]
        simp [hblock, Except.isOk, Except.toBool]
      · simp [Slot.failure?, hblock]
  | error error =>
      simp only [compile, hblock, Slot.compiled, if_pos hpending]
      refine ⟨hsegments, ?_, ?_, ?_⟩
      · simp [hblock, Except.toOption]
      · intro other
        rw [Report.count_fail]
        simp [hblock, Except.isOk, Except.toBool]
      · simp [Slot.failure?, hblock, Report.fail]

theorem foldl_compile_pendingFrom {compilation : Compilation Document} (front : List Segment)
    {rest : List Segment} (index : Nat) (hsegments : compilation.host.segments = front ++ rest) :
    (((Document.pendingFrom dialect front.length rest).zipIdx index).foldl (compile options)
        compilation).host.segments =
          front ++ rest.map (Segment.mapSlot (Slot.compiledAs options dialect)) ∧
      Adds options dialect (Document.waiting dialect rest) index compilation
        (((Document.pendingFrom dialect front.length rest).zipIdx index).foldl (compile options)
          compilation) := by
  -- The front is what has been passed, so its length is the place where the rest begins.
  induction rest generalizing compilation front index with
  | nil => exact ⟨hsegments, .nil index compilation⟩
  | cons segment rest ih =>
      have hlength : ∀ next : Segment, (front ++ [next]).length = front.length + 1 := by simp
      have hsplit : compilation.host.segments = front ++ [segment] ++ rest := by simp [hsegments]
      obtain ⟨slot, rfl, hwaits⟩ | hpassed := segment.waits_or_passed dialect
      · obtain ⟨rfl, hpending⟩ := Slot.waits_iff.mp hwaits
        obtain ⟨hfirst, hadds⟩ := compile_slot options index hsegments hpending
        obtain ⟨hrest, hrestAdds⟩ := ih (front ++ [.block (slot.compiled options)])
          (index + 1) (by rw [hfirst]; simp)
        rw [hlength] at hrest hrestAdds
        rw [Document.pendingFrom_of_waits hwaits, Document.waiting_of_waits hwaits,
          List.zipIdx_cons, List.foldl_cons]
        refine ⟨?_, hadds.cons hrestAdds⟩
        rw [hrest, List.map_cons, Segment.mapSlot, Slot.compiledAs_of_waits hwaits]
        simp
      · obtain ⟨hrest, hadds⟩ := ih (front ++ [segment]) index hsplit
        rw [hlength] at hrest hadds
        rw [Document.pendingFrom_of_not_waits hpassed, Document.waiting_of_not_waits hpassed]
        refine ⟨?_, hadds⟩
        rw [hrest, List.map_cons, Document.mapSlot_compiledAs_of_not_waits hpassed]
        simp

theorem compileDialect_document (compilation : Compilation Document) (dialect : Dialect) :
    (compilation.compileDialect options dialect).host.segments =
        compilation.host.segments.map (Segment.mapSlot (Slot.compiledAs options dialect)) ∧
      Adds options dialect (Document.waiting dialect compilation.host.segments) 0 compilation
        (compilation.compileDialect options dialect) :=
  foldl_compile_pendingFrom options [] 0 rfl

end Compilation

section

variable {α β : Type} (compile : Text → Except CompileError α) (make : α → β)

theorem isOk_map (source : Text) : ((compile source).map make).isOk = (compile source).isOk := by
  cases compile source <;> rfl

theorem failure?_map (dialect : Dialect) :
    Slot.failure? (fun source => (compile source).map make) dialect =
      Slot.failure? compile dialect := by
  funext entry
  simp only [Slot.failure?]
  cases compile entry.1.source <;> rfl

theorem countP_add_length_failures (dialect : Dialect) (slots : List Slot) (index : Nat) :
    slots.countP (fun slot => (compile slot.source).isOk) +
        ((slots.zipIdx index).filterMap (Slot.failure? compile dialect)).length =
      slots.length := by
  induction slots generalizing index with
  | nil => rfl
  | cons slot slots ih =>
      have hrest := ih (index + 1)
      rw [List.zipIdx_cons, List.filterMap_cons, List.countP_cons, List.length_cons]
      cases hcompile : compile slot.source with
      | ok result =>
          have hfailure : Slot.failure? compile dialect (slot, index) = none := by
            simp only [Slot.failure?, hcompile]
          have hok : (Except.ok result : Except CompileError α).isOk = true := rfl
          simp only [hfailure, hok, if_true]
          omega
      | error error =>
          have hfailure : Slot.failure? compile dialect (slot, index) =
              some ⟨dialect, index, error⟩ := by
            simp only [Slot.failure?, hcompile]
          have hok : (Except.error error : Except CompileError α).isOk = false := rfl
          simp only [hfailure, hok, List.length_cons, Bool.false_eq_true, if_false]
          omega

theorem failures_eq_nil_iff (dialect : Dialect) (slots : List Slot) (index : Nat) :
    (slots.zipIdx index).filterMap (Slot.failure? compile dialect) = [] ↔
      ∀ slot ∈ slots, (compile slot.source).isOk = true := by
  have hcount := countP_add_length_failures compile dialect slots index
  rw [← List.countP_eq_length, ← List.length_eq_zero_iff]
  omega

end

theorem failure?_stylesheet (options : CompileOptions) :
    Slot.failure? (compileBlock options .stylesheet) .stylesheet =
      Slot.failure? (compileStylesheet options) .stylesheet :=
  failure?_map (compileStylesheet options) Artifact.css .stylesheet

theorem failure?_markup (options : CompileOptions) :
    Slot.failure? (compileBlock options .markup) .markup = Slot.failure? Markup.compile .markup :=
  failure?_map Markup.compile Artifact.nodes .markup

theorem css?_compileBlock_stylesheet (options : CompileOptions) (source : Text) :
    (compileBlock options .stylesheet source).toOption.bind Artifact.css? =
      (compileStylesheet options source).toOption := by
  rw [compileBlock]
  cases compileStylesheet options source <;> rfl

theorem css?_compileBlock_markup (options : CompileOptions) (source : Text) :
    (compileBlock options .markup source).toOption.bind Artifact.css? = none := by
  rw [compileBlock]
  cases Markup.compile source <;> rfl

namespace Document

variable (options : CompileOptions) (document : Document)

theorem exists_passes : ∃ between : Compilation Document,
    between.host.segments =
        document.segments.map (Segment.mapSlot (Slot.compiledAs options .stylesheet)) ∧
      (compileBlocks options document).host.segments =
        between.host.segments.map (Segment.mapSlot (Slot.compiledAs options .markup)) ∧
      Compilation.Adds options .stylesheet (waiting .stylesheet document.segments) 0
        { host := document } between ∧
      Compilation.Adds options .markup (waiting .markup document.segments) 0 between
        (compileBlocks options document) := by
  let between := Compilation.compileDialect options { host := document } Dialect.stylesheet
  obtain ⟨hfirst, hfirstAdds⟩ :=
    Compilation.compileDialect_document options { host := document } .stylesheet
  obtain ⟨hsecond, hsecondAdds⟩ :=
    Compilation.compileDialect_document options between .markup
  -- The first pass leaves markup alone, so the second one finds what waited from the start.
  rw [hfirst, waiting_map_compiledAs (by decide)] at hsecondAdds
  exact ⟨between, hfirst, hsecond, hfirstAdds,
    hsecondAdds.stylesheets, hsecondAdds.count, hsecondAdds.failures⟩

theorem segments_compileBlocks :
    (compileBlocks options document).host.segments =
      document.segments.map (Segment.mapSlot (Slot.compiled options)) := by
  obtain ⟨between, hfirst, hsecond, -, -⟩ := exists_passes options document
  rw [hsecond, hfirst, List.map_map]
  apply List.map_congr_left
  intro segment _
  cases segment with
  | plain content => rfl
  | block slot => exact congrArg Segment.block (Slot.compiledAs_compiledAs options slot)

theorem stylesheets_compileBlocks :
    (compileBlocks options document).host.stylesheets = document.stylesheets ++
      (waiting .stylesheet document.segments).filterMap
        (fun slot => (compileStylesheet options slot.source).toOption) := by
  obtain ⟨between, -, -, hfirst, hsecond⟩ := exists_passes options document
  rw [hsecond.stylesheets, hfirst.stylesheets]
  simp [css?_compileBlock_stylesheet, css?_compileBlock_markup]

theorem report_compileBlocks :
    (compileBlocks options document).report.stylesheets =
        (waiting .stylesheet document.segments).countP
          (fun slot => (compileStylesheet options slot.source).isOk) ∧
      (compileBlocks options document).report.markup =
        (waiting .markup document.segments).countP (fun slot => (Markup.compile slot.source).isOk) ∧
      (compileBlocks options document).report.failures =
        (waiting .stylesheet document.segments).zipIdx.filterMap
            (Slot.failure? (compileStylesheet options) .stylesheet) ++
          (waiting .markup document.segments).zipIdx.filterMap
            (Slot.failure? Markup.compile .markup) := by
  obtain ⟨between, -, -, hfirst, hsecond⟩ := exists_passes options document
  refine ⟨(hsecond.count .stylesheet).trans ?_, (hsecond.count .markup).trans ?_, ?_⟩
  · rw [hfirst.count]
    simp [compileBlock, isOk_map, Report.count]
  · rw [hfirst.count]
    simp [compileBlock, isOk_map, Report.count]
  · rw [hsecond.failures, hfirst.failures, failure?_stylesheet, failure?_markup]
    rfl

/-- What has become of a document. A pending block is replaced, by nothing if it is a style sheet,
when its own source can be compiled, and is still pending when it cannot; all other segments are as
they were. The style sheets are added in document order. The report counts the blocks of each
dialect that have been replaced and lists the others, style sheets first, with their own errors and
their places among the blocks of their dialect that were pending. -/
structure IsolatesBlocks (compilation : Compilation Document) : Prop where
  length_segments : compilation.host.segments.length = document.segments.length
  stylesheet_block : ∀ (index : Nat) (slot : Slot),
    document.segments[index]? = some (.block slot) → slot.waits .stylesheet = true →
    compilation.host.segments[index]? = some (.block
      { slot with
        replacement := (compileStylesheet options slot.source).toOption.map fun _ => .nil })
  markup_block : ∀ (index : Nat) (slot : Slot),
    document.segments[index]? = some (.block slot) → slot.waits .markup = true →
    compilation.host.segments[index]? = some (.block
      { slot with replacement := (Markup.compile slot.source).toOption })
  plain_segment : ∀ (index : Nat) (content : Text),
    document.segments[index]? = some (.plain content) →
    compilation.host.segments[index]? = some (.plain content)
  replaced_block : ∀ (index : Nat) (slot : Slot),
    document.segments[index]? = some (.block slot) → slot.isPending = false →
    compilation.host.segments[index]? = some (.block slot)
  stylesheets : compilation.host.stylesheets = document.stylesheets ++
    (waiting .stylesheet document.segments).filterMap
      (fun slot => (compileStylesheet options slot.source).toOption)
  count_stylesheets : compilation.report.stylesheets =
    (waiting .stylesheet document.segments).countP
      (fun slot => (compileStylesheet options slot.source).isOk)
  count_markup : compilation.report.markup =
    (waiting .markup document.segments).countP (fun slot => (Markup.compile slot.source).isOk)
  failures : compilation.report.failures =
    (waiting .stylesheet document.segments).zipIdx.filterMap
        (Slot.failure? (compileStylesheet options) .stylesheet) ++
      (waiting .markup document.segments).zipIdx.filterMap (Slot.failure? Markup.compile .markup)
  total : compilation.report.stylesheets + compilation.report.markup +
      compilation.report.failures.length =
    (waiting .stylesheet document.segments).length + (waiting .markup document.segments).length

theorem compileBlocks_isolatesBlocks :
    IsolatesBlocks options document (compileBlocks options document) := by
  have hsegments := segments_compileBlocks options document
  obtain ⟨hstylesheets, hmarkup, hfailures⟩ := report_compileBlocks options document
  constructor
  case length_segments => rw [hsegments, List.length_map]
  case stylesheet_block =>
    intro index slot hslot hwaits
    obtain ⟨hdialect, hpending⟩ := Slot.waits_iff.mp hwaits
    rw [hsegments, List.getElem?_map, hslot, Option.map_some, Segment.mapSlot,
      Slot.compiled_of_isPending hpending, hdialect, compileBlock]
    cases compileStylesheet options slot.source <;> rfl
  case markup_block =>
    intro index slot hslot hwaits
    obtain ⟨hdialect, hpending⟩ := Slot.waits_iff.mp hwaits
    rw [hsegments, List.getElem?_map, hslot, Option.map_some, Segment.mapSlot,
      Slot.compiled_of_isPending hpending, hdialect, compileBlock]
    cases Markup.compile slot.source <;> rfl
  case plain_segment =>
    intro index content hcontent
    rw [hsegments, List.getElem?_map, hcontent]
    rfl
  case replaced_block =>
    intro index slot hslot hreplaced
    rw [hsegments, List.getElem?_map, hslot, Option.map_some, Segment.mapSlot,
      Slot.compiled_of_not_isPending hreplaced]
  case stylesheets => exact stylesheets_compileBlocks options document
  case count_stylesheets => exact hstylesheets
  case count_markup => exact hmarkup
  case failures => exact hfailures
  case total =>
    have hstylesheetBlocks := countP_add_length_failures (compileStylesheet options) .stylesheet
      (waiting .stylesheet document.segments) 0
    have hmarkupBlocks := countP_add_length_failures Markup.compile .markup
      (waiting .markup document.segments) 0
    rw [hstylesheets, hmarkup, hfailures, List.length_append]
    omega

theorem exists_failures_around_compiled_block :
    ∃ (options : CompileOptions) (document : Document) (failing sheet : Slot),
      document.segments[1]? = some (.block failing) ∧ failing.waits .stylesheet = true ∧
      document.segments[3]? = some (.block sheet) ∧ sheet.waits .stylesheet = true ∧
      (compileBlocks options document).host.segments[1]? = some (.block failing) ∧
      (compileBlocks options document).host.segments[3]? = some (.block (sheet.replace .nil)) ∧
      (compileBlocks options document).report.failures =
        [⟨.stylesheet, 0, .strayBlockClose 1⟩, ⟨.markup, 1, .unbalancedTag 0 ['p']⟩] := by
  let options : CompileOptions := { strictStylesheets := true }
  let failing : Slot := { dialect := .stylesheet, raw := "<AAAD>@</AAAD>".toList, source := ['@'] }
  let sheet : Slot :=
    { dialect := .stylesheet
      raw := "<aaad>!b\nmargin 0\n@</aaad>".toList
      source := "!b\nmargin 0\n@".toList }
  let tag (source : Text) : Slot :=
    { dialect := .markup, raw := "<AHT>".toList ++ source ++ "</AHT>".toList, source := source }
  let document : Document :=
    { segments := [.block (tag ['x']), .block failing, .plain ['y'], .block sheet,
        .block (tag ['@', 'p', '{'])] }
  have hisolated := compileBlocks_isolatesBlocks options document
  refine ⟨options, document, failing, sheet, rfl, rfl, rfl, rfl, ?_, ?_, ?_⟩
  · exact (hisolated.stylesheet_block 1 failing rfl rfl).trans (by decide +kernel)
  · exact (hisolated.stylesheet_block 3 sheet rfl rfl).trans (by decide +kernel)
  · exact hisolated.failures.trans (by decide +kernel)

end Document

end Inlay
