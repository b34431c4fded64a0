import Inlay.Document.Render
import Inlay.Proofs.Compilation

namespace Inlay

attribute [ext] Document Report

namespace BlockFailure

/-- Failures that are counted anew: the index of each is the number of failures of its dialect
before it. -/
def renumbered (failures : List BlockFailure) : List BlockFailure :=
  failures.mapIdx fun place failure =>
    { failure with
      index := (failures.take place).countP fun earlier => earlier.dialect = failure.dialect }

def placedFrom (start : Nat) (failures : List BlockFailure) : List BlockFailure :=
  failures.mapIdx fun place failure => { failure with index := start + place }

theorem placedFrom_cons (start : Nat) (failure : BlockFailure) (failures : List BlockFailure) :
    placedFrom start (failure :: failures) =
      { failure with index := start } :: placedFrom (start + 1) failures := by
  simp only [placedFrom, List.mapIdx_cons, Nat.add_zero, List.cons.injEq, true_and]
  apply List.mapIdx_eq_mapIdx_iff.mpr
  intro place _
  rw [Nat.add_assoc, Nat.add_comm 1 place]

theorem countP_take_of_dialect {failures : List BlockFailure} {dialect : Dialect}
    (h : ∀ failure ∈ failures, failure.dialect = dialect) {place : Nat}
    (hplace : place ≤ failures.length) :
    (failures.take place).countP (fun earlier => earlier.dialect = dialect) = place := by
  have hall : (failures.take place).countP (fun earlier => earlier.dialect = dialect) =
      (failures.take place).length := by
    rw [List.countP_eq_length]
    intro failure hmem
    simp [h failure (List.mem_of_mem_take hmem)]
  rw [hall, List.length_take, Nat.min_eq_left hplace]

theorem renumbered_append {first second : List BlockFailure} {dialect other : Dialect}
    (hne : dialect ≠ other) (hfirst : ∀ failure ∈ first, failure.dialect = dialect)
    (hsecond : ∀ failure ∈ second, failure.dialect = other) :
    renumbered (first ++ second) = placedFrom 0 first ++ placedFrom 0 second := by
  have hnone : first.countP (fun earlier => earlier.dialect = other) = 0 := by
    rw [List.countP_eq_zero]
    intro failure hmem
    simp [hfirst failure hmem, hne]
  rw [renumbered, List.mapIdx_append, placedFrom, placedFrom]
  congr 1
  · apply List.mapIdx_eq_mapIdx_iff.mpr
    intro place hplace
    rw [hfirst _ (List.getElem_mem hplace), List.take_append_of_le_length (Nat.le_of_lt hplace),
      countP_take_of_dialect hfirst (Nat.le_of_lt hplace), Nat.zero_add]
  · apply List.mapIdx_eq_mapIdx_iff.mpr
    intro place hplace
    rw [hsecond _ (List.getElem_mem hplace), Nat.add_comm place, List.take_length_add_append,
      List.countP_append, hnone, countP_take_of_dialect hsecond (Nat.le_of_lt hplace)]

end BlockFailure

namespace Slot

variable {options : CompileOptions} {slot : Slot}

def refusedBy {α : Type} (compile : Text → Except CompileError α) (slot : Slot) : Bool :=
  !(compile slot.source).isOk

theorem compiled_of_refused (h : slot.refusedBy (compileBlock options slot.dialect) = true) :
    slot.compiled options = slot := by
  rw [compiled]
  split
  · cases hblock : compileBlock options slot.dialect slot.source with
    | ok artifact => simp [refusedBy, hblock, Except.isOk, Except.toBool] at h
    | error error => rfl
  · rfl

theorem isPending_compiled (options : CompileOptions) (slot : Slot) :
    (slot.compiled options).isPending =
      (slot.isPending && slot.refusedBy (compileBlock options slot.dialect)) := by
  cases hpending : slot.isPending with
  | false => rw [compiled_of_not_isPending hpending, hpending, Bool.false_and]
  | true =>
      rw [compiled_of_isPending hpending, isPending, refusedBy]
      cases compileBlock options slot.dialect slot.source <;> rfl

theorem compiled_compiled (options : CompileOptions) (slot : Slot) :
    (slot.compiled options).compiled options = slot.compiled options := by
  cases hpending : (slot.compiled options).isPending with
  | false => exact compiled_of_not_isPending hpending
  | true =>
      rw [isPending_compiled, Bool.and_eq_true] at hpending
      rw [compiled_of_refused hpending.2, compiled_of_refused hpending.2]

theorem waits_compiled (options : CompileOptions) (dialect : Dialect) (slot : Slot) :
    (slot.compiled options).waits dialect =
      (slot.waits dialect && slot.refusedBy (compileBlock options dialect)) := by
  rw [waits, waits, dialect_compiled, isPending_compiled, Bool.and_assoc]
  by_cases hdialect : slot.dialect = dialect
  · rw [hdialect]
  · simp [hdialect]

end Slot

namespace Document

variable (options : CompileOptions)

theorem pendingFrom_map_compiled (dialect : Dialect) (index : Nat) (segments : List Segment) :
    pendingFrom dialect index (segments.map (Segment.mapSlot (Slot.compiled options))) =
      (pendingFrom dialect index segments).filter fun block =>
        !(compileBlock options dialect block.source).isOk := by
  induction segments generalizing index with
  | nil => rfl
  | cons segment rest ih =>
      cases segment with
      | plain content => exact ih (index + 1)
      | block slot =>
          have hwaits := Slot.waits_compiled options dialect slot
          rw [List.map_cons, Segment.mapSlot]
          cases hearlier : slot.waits dialect with
          | false =>
              rw [hearlier, Bool.false_and] at hwaits
              rw [pendingFrom_of_not_waits (by simp [hwaits]),
                pendingFrom_of_not_waits (by simp [hearlier]), ih]
          | true =>
              rw [hearlier, Bool.true_and] at hwaits
              rw [pendingFrom_of_waits hearlier, List.filter_cons, ← ih]
              split
              · rename_i hrefused
                have hsame : slot.compiled options = slot := by
                  apply Slot.compiled_of_refused
                  rwa [(Slot.waits_iff.mp hearlier).1]
                rw [hsame, pendingFrom_of_waits hearlier]
              · rename_i hcompiles
                rw [pendingFrom_of_not_waits]
                rintro other ⟨⟩
                rwa [hwaits]

theorem waiting_map_compiled (dialect : Dialect) (segments : List Segment) :
    waiting dialect (segments.map (Segment.mapSlot (Slot.compiled options))) =
      (waiting dialect segments).filter (Slot.refusedBy (compileBlock options dialect)) := by
  have hslots : (segments.map (Segment.mapSlot (Slot.compiled options))).filterMap Segment.slot? =
      (segments.filterMap Segment.slot?).map (Slot.compiled options) := by
    have hslot : Segment.slot? ∘ Segment.mapSlot (Slot.compiled options) =
        fun segment => segment.slot?.map (Slot.compiled options) := by
      funext segment
      cases segment <;> rfl
    rw [List.filterMap_map, List.map_filterMap, hslot]
  rw [waiting, waiting, hslots, List.filter_map, List.filter_filter]
  calc
    ((segments.filterMap Segment.slot?).filter
        (Slot.waits dialect ∘ Slot.compiled options)).map (Slot.compiled options) =
      ((segments.filterMap Segment.slot?).filter
        (Slot.waits dialect ∘ Slot.compiled options)).map id := by
        apply List.map_congr_left
        intro slot hslot
        have hwaits := (List.mem_filter.mp hslot).2
        rw [Function.comp_apply, Slot.waits_compiled, Bool.and_eq_true] at hwaits
        apply Slot.compiled_of_refused
        rw [(Slot.waits_iff.mp hwaits.1).1]
        exact hwaits.2
    _ = (segments.filterMap Segment.slot?).filter (fun slot =>
          slot.refusedBy (compileBlock options dialect) && slot.waits dialect) := by
        rw [List.map_id]
        apply List.filter_congr
        intro slot _
        rw [Function.comp_apply, Slot.waits_compiled, Bool.and_comm]

end Document

section

variable {α : Type} (compile : Text → Except CompileError α) (dialect : Dialect)

theorem failures_of_refused (slots : List Slot) (start index : Nat) :
    ((slots.filter (Slot.refusedBy compile)).zipIdx start).filterMap
        (Slot.failure? compile dialect) =
      BlockFailure.placedFrom start
        ((slots.zipIdx index).filterMap (Slot.failure? compile dialect)) := by
  induction slots generalizing start index with
  | nil => rfl
  | cons slot slots ih =>
      cases hcompile : compile slot.source with
      | ok result =>
          have hrefused : slot.refusedBy compile = false := by
            rw [Slot.refusedBy, hcompile]
            rfl
          have hfailure : Slot.failure? compile dialect (slot, index) = none := by
            simp only [Slot.failure?, hcompile]
          rw [List.filter_cons_of_neg (by simp [hrefused]), List.zipIdx_cons,
            List.filterMap_cons_none hfailure, ih start (index + 1)]
      | error error =>
          have hrefused : slot.refusedBy compile = true := by
            rw [Slot.refusedBy, hcompile]
            rfl
          have hfailure (place : Nat) : Slot.failure? compile dialect (slot, place) =
              some ⟨dialect, place, error⟩ := by
            simp only [Slot.failure?, hcompile]
          rw [List.filter_cons_of_pos hrefused, List.zipIdx_cons, List.zipIdx_cons,
            List.filterMap_cons_some (hfailure start), List.filterMap_cons_some (hfailure index),
            BlockFailure.placedFrom_cons, ih (start + 1) (index + 1)]

theorem dialect_of_mem_failures {entries : List (Slot × Nat)} {failure : BlockFailure}
    (h : failure ∈ entries.filterMap (Slot.failure? compile dialect)) :
    failure.dialect = dialect := by
  obtain ⟨entry, -, hfailure⟩ := List.mem_filterMap.mp h
  rw [Slot.failure?] at hfailure
  split at hfailure
  · cases hfailure
  · cases hfailure
    rfl

theorem countP_isOk_of_refused (slots : List Slot) :
    (slots.filter (Slot.refusedBy compile)).countP (fun slot => (compile slot.source).isOk) =
      0 := by
  rw [List.countP_eq_zero]
  intro slot hslot
  simpa [Slot.refusedBy] using (List.mem_filter.mp hslot).2

theorem refusedBy_map {β : Type} (make : α → β) :
    Slot.refusedBy (fun source => (compile source).map make) = Slot.refusedBy compile := by
  funext slot
  exact congrArg not (isOk_map compile make slot.source)

theorem filterMap_toOption_of_refused (slots : List Slot) :
    (slots.filter (Slot.refusedBy compile)).filterMap
      (fun slot => (compile slot.source).toOption) = [] := by
  rw [List.filterMap_eq_nil_iff]
  intro slot hslot
  have hrefused := (List.mem_filter.mp hslot).2
  rw [Slot.refusedBy] at hrefused
  cases hcompile : compile slot.source with
  | ok result => simp [hcompile, Except.isOk, Except.toBool] at hrefused
  | error error => rfl

end

theorem refusedBy_stylesheet (options : CompileOptions) :
    Slot.refusedBy (compileBlock options .stylesheet) =
      Slot.refusedBy (compileStylesheet options) :=
  refusedBy_map (compileStylesheet options) Artifact.css

theorem refusedBy_markup (options : CompileOptions) :
    Slot.refusedBy (compileBlock options .markup) = Slot.refusedBy Markup.compile :=
  refusedBy_map Markup.compile Artifact.nodes

namespace Document

variable (options : CompileOptions) (document : Document)

theorem waiting_compileBlocks (dialect : Dialect) :
    waiting dialect (compileBlocks options document).host.segments =
      (waiting dialect document.segments).filter
        (Slot.refusedBy (compileBlock options dialect)) := by
  rw [segments_compileBlocks, waiting_map_compiled]

theorem host_compileBlocks_again :
    (compileBlocks options (compileBlocks options document).host).host =
      (compileBlocks options document).host := by
  have hsegments : (compileBlocks options (compileBlocks options document).host).host.segments =
      (compileBlocks options document).host.segments := by
    rw [segments_compileBlocks options (compileBlocks options document).host,
      segments_compileBlocks options document, List.map_map]
    apply List.map_congr_left
    intro segment _
    cases segment with
    | plain content => rfl
    | block slot => exact congrArg Segment.block (Slot.compiled_compiled options slot)
  have hstylesheets :
      (compileBlocks options (compileBlocks options document).host).host.stylesheets =
        (compileBlocks options document).host.stylesheets := by
    rw [stylesheets_compileBlocks options (compileBlocks options document).host,
      waiting_compileBlocks, refusedBy_stylesheet, filterMap_toOption_of_refused, List.append_nil]
  exact Document.ext hsegments hstylesheets

theorem report_compileBlocks_again :
    (compileBlocks options (compileBlocks options document).host).report =
      { failures := BlockFailure.renumbered (compileBlocks options document).report.failures } := by
  obtain ⟨-, -, hfailures⟩ := report_compileBlocks options document
  obtain ⟨hstylesheets, hmarkup, hagain⟩ :=
    report_compileBlocks options (compileBlocks options document).host
  rw [waiting_compileBlocks, refusedBy_stylesheet, countP_isOk_of_refused] at hstylesheets
  rw [waiting_compileBlocks, refusedBy_markup, countP_isOk_of_refused] at hmarkup
  rw [waiting_compileBlocks, waiting_compileBlocks, refusedBy_stylesheet, refusedBy_markup,
    failures_of_refused _ _ _ 0 0, failures_of_refused _ _ _ 0 0,
    ← BlockFailure.renumbered_append (by decide)
      (fun _ => dialect_of_mem_failures (compileStylesheet options) .stylesheet)
      (fun _ => dialect_of_mem_failures Markup.compile .markup), ← hfailures] at hagain
  exact Report.ext hstylesheets hmarkup hagain

/-- How a second run with the same options follows a first one. After the first run only the blocks
that it refused are pending; the second one leaves the document as it is, counts no block as
compiled and reports the same failures, counted anew. -/
structure RepeatsRun (first second : Compilation Document) : Prop where
  pending : ∀ dialect, first.host.pending dialect = (document.pending dialect).filter fun block =>
    !(compileBlock options dialect block.source).isOk
  host : second.host = first.host
  render : ∀ serialize, second.host.render serialize = first.host.render serialize
  stylesheets : second.report.stylesheets = 0
  markup : second.report.markup = 0
  failures : second.report.failures = BlockFailure.renumbered first.report.failures

theorem compileBlocks_repeatsRun :
    RepeatsRun options document (compileBlocks options document)
      (compileBlocks options (compileBlocks options document).host) := by
  have hhost := host_compileBlocks_again options document
  have hreport := report_compileBlocks_again options document
  constructor
  case pending =>
    intro dialect
    rw [Document.pending, segments_compileBlocks]
    exact pendingFrom_map_compiled options dialect 0 document.segments
  case host => exact hhost
  case render =>
    intro serialize
    rw [hhost]
  case stylesheets => rw [hreport]
  case markup => rw [hreport]
  case failures => rw [hreport]

end Document

end Inlay
