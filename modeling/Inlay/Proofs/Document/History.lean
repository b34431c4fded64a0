import Inlay.Html.Standard
import Inlay.Proofs.Compilation
import Inlay.Proofs.Document.Division

namespace Inlay

def Segment.unreplaced : Segment → Segment :=
  Segment.mapSlot fun slot => { slot with replacement := none }

theorem Segment.spelling_unreplaced (segment : Segment) :
    segment.unreplaced.spelling = segment.spelling := by
  cases segment <;> rfl

def Segment.forest? (segment : Segment) : Option Forest :=
  segment.slot?.bind Slot.replacement

namespace Document

/-- Change the forests of replaced blocks, each in a way that may depend on its place. -/
def editForests (change : Nat → Forest → Forest) (document : Document) : Document :=
  { document with
    segments := document.segments.mapIdx fun index => Segment.mapSlot fun slot =>
      { slot with replacement := slot.replacement.map (change index) } }

/-- Changing all forests in the same way is one such change. -/
theorem mapForests_eq_editForests (change : Forest → Forest) (document : Document) :
    document.mapForests change = document.editForests fun _ => change := by
  rw [mapForests, editForests, eq_comm]
  congr
  rw [List.mapIdx_eq_iff]
  intro index
  rw [List.getElem?_map]

inductive Operation where
  | inject (css : Text)
  | replace (index : Nat) (forest : Forest)
  | edit (change : Nat → Forest → Forest)
  | compile (options : CompileOptions)

namespace Operation

def apply (document : Document) : Operation → Document
  | inject css => document.inject css
  | replace index forest => document.replace index forest
  | edit change => document.editForests change
  | compile options => (compileBlocks options document).host

def Replaces (index : Nat) (slot : Slot) : Operation → Prop
  | inject _ => False
  | replace place _ => place = index
  | edit _ => False
  | compile options =>
      slot.isPending = true ∧ (compileBlock options slot.dialect slot.source).isOk = true

def update (index : Nat) (slot : Slot) : Operation → Slot
  | inject _ => slot
  | replace place forest => if place = index then slot.replace forest else slot
  | edit change => { slot with replacement := slot.replacement.map (change index) }
  | compile options => slot.compiled options

end Operation

def after (document : Document) (operations : List Operation) : Document :=
  operations.foldl Operation.apply document

/-- Whether one of several operations puts a forest in the place of the block at an index. -/
def Replaced (document : Document) (operations : List Operation) (index : Nat) : Prop :=
  ∃ earlier operation later slot, operations = earlier ++ operation :: later ∧
    (document.after earlier).segments[index]? = some (.block slot) ∧ operation.Replaces index slot

/-! One operation goes over the segments once and does to each block what belongs to its place. -/

namespace Operation

variable (operation : Operation) (index : Nat) (slot : Slot)

theorem update_eq : operation.update index slot =
    { slot with replacement := (operation.update index slot).replacement } := by
  cases operation with
  | inject css => rfl
  | replace place forest =>
      rw [update]
      split <;> rfl
  | edit change => rfl
  | compile options =>
      rw [update, Slot.compiled]
      split
      · split <;> rfl
      · rfl

theorem isPending_update_iff : (operation.update index slot).isPending = true ↔
    slot.isPending = true ∧ ¬ operation.Replaces index slot := by
  cases operation with
  | inject css => simp [update, Replaces]
  | replace place forest =>
      rw [update, Replaces]
      split
      · rename_i hplace
        simp [hplace, Slot.replace, Slot.isPending]
      · rename_i hplace
        simp [hplace]
  | edit change => simp [update, Replaces, Slot.isPending]
  | compile options =>
      rw [update, Replaces]
      cases hpending : slot.isPending with
      | false => simp [Slot.compiled_of_not_isPending hpending, hpending]
      | true =>
          rw [Slot.compiled_of_isPending hpending]
          cases compileBlock options slot.dialect slot.source <;>
            simp [Slot.isPending, Except.toOption, Except.isOk, Except.toBool]

theorem segments_apply (document : Document) : (operation.apply document).segments =
    document.segments.mapIdx fun index => Segment.mapSlot (operation.update index) := by
  rw [eq_comm, List.mapIdx_eq_iff]
  intro index
  have hkeep : Segment.mapSlot (fun slot => slot) = id := by
    funext segment
    cases segment <;> rfl
  cases operation with
  | inject css => simp only [apply, segments_inject, update, hkeep, Option.map_id_fun, id]
  | replace place forest =>
      simp only [apply, Document.replace, update, List.getElem?_modify, Option.map_eq_map]
      split <;> simp [hkeep]
  | edit change =>
      rw [apply, editForests, List.getElem?_mapIdx]
      rfl
  | compile options =>
      rw [apply, segments_compileBlocks, List.getElem?_map]
      rfl

theorem map_unreplaced_apply (document : Document) :
    (operation.apply document).segments.map Segment.unreplaced =
      document.segments.map Segment.unreplaced := by
  apply List.ext_getElem?
  intro index
  rw [segments_apply, List.getElem?_map, List.getElem?_map, List.getElem?_mapIdx]
  cases document.segments[index]? with
  | none => rfl
  | some segment =>
      cases segment with
      | plain content => rfl
      | block slot =>
          rw [Option.map_some, Segment.mapSlot, update_eq]
          rfl

theorem stylesheets_apply (document : Document) :
    document.stylesheets <+: (operation.apply document).stylesheets := by
  cases operation with
  | inject css => exact List.prefix_append _ _
  | replace place forest => exact List.prefix_refl _
  | edit change => exact List.prefix_refl _
  | compile options =>
      rw [apply, stylesheets_compileBlocks]
      exact List.prefix_append _ _

end Operation

theorem after_append (document : Document) (earlier later : List Operation) :
    document.after (earlier ++ later) = (document.after earlier).after later := by
  simp [after]

theorem stylesheets_after (document : Document) (operations : List Operation) :
    document.stylesheets <+: (document.after operations).stylesheets := by
  induction operations generalizing document with
  | nil => exact List.prefix_refl _
  | cons operation operations ih =>
      exact (operation.stylesheets_apply document).trans (ih (operation.apply document))

theorem getElem?_apply {document : Document} {index : Nat} {slot : Slot} (operation : Operation)
    (h : document.segments[index]? = some (.block slot)) :
    (operation.apply document).segments[index]? = some (.block (operation.update index slot)) := by
  rw [operation.segments_apply, List.getElem?_mapIdx, h]
  rfl

theorem segments_after (document : Document) (operations : List Operation) :
    (document.after operations).segments.map Segment.unreplaced =
      document.segments.map Segment.unreplaced := by
  induction operations generalizing document with
  | nil => rfl
  | cons operation operations ih =>
      rw [← operation.map_unreplaced_apply document]
      exact ih (operation.apply document)

theorem not_replaced_nil (document : Document) (index : Nat) : ¬ document.Replaced [] index := by
  rintro ⟨earlier, operation, later, slot, hsplit, -, -⟩
  simp at hsplit

theorem replaced_cons {document : Document} {operation : Operation} {operations : List Operation}
    {index : Nat} {slot : Slot} (h : document.segments[index]? = some (.block slot)) :
    document.Replaced (operation :: operations) index ↔
      operation.Replaces index slot ∨ (operation.apply document).Replaced operations index := by
  constructor
  · rintro ⟨earlier, last, later, replaced, hsplit, hslot, hreplaces⟩
    cases earlier with
    | nil =>
        cases hsplit
        rw [show document.after [] = document from rfl, h] at hslot
        cases hslot
        exact Or.inl hreplaces
    | cons first earlier =>
        cases hsplit
        exact Or.inr ⟨earlier, last, later, replaced, rfl, hslot, hreplaces⟩
  · rintro (hreplaces | ⟨earlier, last, later, replaced, rfl, hslot, hreplaces⟩)
    · exact ⟨[], operation, operations, slot, rfl, h, hreplaces⟩
    · exact ⟨operation :: earlier, last, later, replaced, rfl, hslot, hreplaces⟩

theorem getElem?_after {document : Document} {index : Nat} {slot : Slot}
    (operations : List Operation) (h : document.segments[index]? = some (.block slot)) :
    ∃ replacement, (document.after operations).segments[index]? =
        some (.block { slot with replacement := replacement }) ∧
      (replacement = none ↔ slot.isPending = true ∧ ¬ document.Replaced operations index) := by
  -- The first operation gives the same block with another replacement, to which the others apply.
  induction operations generalizing document slot with
  | nil =>
      refine ⟨slot.replacement, h, ?_⟩
      simp [Slot.isPending, not_replaced_nil document index]
  | cons operation operations ih =>
      obtain ⟨replacement, hafter, hiff⟩ := ih (getElem?_apply operation h)
      rw [operation.update_eq] at hafter
      refine ⟨replacement, hafter, ?_⟩
      rw [hiff, operation.isPending_update_iff, replaced_cons h]
      simp only [not_or, and_assoc]

def pendingAt? (dialect : Dialect) (entry : Segment × Nat) : Option (PendingBlock Nat) :=
  (entry.1.slot?.filter (Slot.waits dialect)).map fun slot => ⟨dialect, slot.source, entry.2⟩

theorem pendingAt?_eq_some_iff {dialect : Dialect} {segment : Segment} {index : Nat}
    {block : PendingBlock Nat} : pendingAt? dialect (segment, index) = some block ↔
      ∃ slot, segment = .block slot ∧ slot.waits dialect = true ∧
        block = ⟨dialect, slot.source, index⟩ := by
  cases segment with
  | plain content => simp [pendingAt?, Segment.slot?]
  | block slot =>
      constructor
      · intro h
        obtain ⟨found, hfound, rfl⟩ := Option.map_eq_some_iff.mp h
        obtain ⟨hslot, hwaits⟩ := Option.filter_eq_some_iff.mp hfound
        cases hslot
        exact ⟨slot, rfl, hwaits, rfl⟩
      · rintro ⟨found, hslot, hwaits, rfl⟩
        cases hslot
        simp [pendingAt?, Segment.slot?, hwaits]

theorem pendingFrom_eq_filterMap (dialect : Dialect) (index : Nat) (segments : List Segment) :
    pendingFrom dialect index segments =
      (segments.zipIdx index).filterMap (pendingAt? dialect) := by
  induction segments generalizing index with
  | nil => rfl
  | cons segment rest ih =>
      rw [List.zipIdx_cons, List.filterMap_cons, ← ih]
      obtain ⟨slot, rfl, hwaits⟩ | hpassed := segment.waits_or_passed dialect
      · rw [pendingFrom_of_waits hwaits, (Slot.waits_iff.mp hwaits).1,
          pendingAt?_eq_some_iff.mpr ⟨slot, rfl, hwaits, rfl⟩]
      · have hnone : pendingAt? dialect (segment, index) = none := by
          rw [Option.eq_none_iff_forall_ne_some]
          intro block hblock
          obtain ⟨slot, hslot, hwaits, -⟩ := pendingAt?_eq_some_iff.mp hblock
          exact hpassed slot hslot hwaits
        rw [pendingFrom_of_not_waits hpassed, hnone]

theorem mem_pending_iff {document : Document} {dialect : Dialect} {block : PendingBlock Nat} :
    block ∈ document.pending dialect ↔
      ∃ index slot, document.segments[index]? = some (.block slot) ∧ slot.waits dialect = true ∧
        block = ⟨dialect, slot.source, index⟩ := by
  rw [pending, pendingFrom_eq_filterMap, List.mem_filterMap]
  constructor
  · rintro ⟨⟨segment, index⟩, hsegment, hblock⟩
    obtain ⟨slot, rfl, hwaits, hblock⟩ := pendingAt?_eq_some_iff.mp hblock
    exact ⟨index, slot, List.mk_mem_zipIdx_iff_getElem?.mp hsegment, hwaits, hblock⟩
  · rintro ⟨index, slot, hslot, hwaits, hblock⟩
    exact ⟨(.block slot, index), List.mk_mem_zipIdx_iff_getElem?.mpr hslot,
      pendingAt?_eq_some_iff.mpr ⟨slot, rfl, hwaits, hblock⟩⟩

theorem pairwise_pending (document : Document) (dialect : Dialect) :
    ((document.pending dialect).map PendingBlock.location).Pairwise (· < ·) := by
  have hindices : document.segments.zipIdx.Pairwise (fun first second => first.2 < second.2) := by
    rw [← List.pairwise_map, List.zipIdx_map_snd]
    exact List.pairwise_lt_range'
  rw [pending, pendingFrom_eq_filterMap, List.pairwise_map, List.pairwise_filterMap]
  refine hindices.imp ?_
  rintro ⟨first, index⟩ ⟨second, later⟩ hless block hblock other hother
  obtain ⟨-, -, -, rfl⟩ := pendingAt?_eq_some_iff.mp hblock
  obtain ⟨-, -, -, rfl⟩ := pendingAt?_eq_some_iff.mp hother
  exact hless

theorem exists_slot_of_after {document : Document} {operations : List Operation} {index : Nat}
    {slot : Slot} (h : (document.after operations).segments[index]? = some (.block slot)) :
    ∃ earlier, document.segments[index]? = some (.block earlier) := by
  have hsegments := congrArg (·[index]?) (segments_after document operations)
  simp only [List.getElem?_map, h, Option.map_some] at hsegments
  obtain ⟨segment, hsegment, hunreplaced⟩ := Option.map_eq_some_iff.mp hsegments.symm
  cases segment with
  | plain content => cases hunreplaced
  | block earlier => exact ⟨earlier, hsegment⟩

/-- After some operations those blocks wait that waited before and that none has replaced. -/
theorem mem_pending_after_iff {document : Document} {operations : List Operation}
    {dialect : Dialect} {block : PendingBlock Nat} :
    block ∈ (document.after operations).pending dialect ↔
      ∃ index slot, document.segments[index]? = some (.block slot) ∧ slot.waits dialect = true ∧
        ¬ document.Replaced operations index ∧ block = ⟨dialect, slot.source, index⟩ := by
  rw [mem_pending_iff]
  constructor
  · rintro ⟨index, slot, hslot, hwaits, rfl⟩
    obtain ⟨earlier, hearlier⟩ := exists_slot_of_after hslot
    obtain ⟨replacement, hafter, hiff⟩ := getElem?_after operations hearlier
    rw [hslot] at hafter
    cases hafter
    obtain ⟨hdialect, hpending⟩ := Slot.waits_iff.mp hwaits
    obtain ⟨hearly, hreplaced⟩ := hiff.mp (Option.isNone_iff_eq_none.mp hpending)
    exact ⟨index, earlier, hearlier, Slot.waits_iff.mpr ⟨hdialect, hearly⟩, hreplaced, rfl⟩
  · rintro ⟨index, slot, hslot, hwaits, hreplaced, rfl⟩
    obtain ⟨hdialect, hpending⟩ := Slot.waits_iff.mp hwaits
    obtain ⟨replacement, hafter, hiff⟩ := getElem?_after operations hslot
    cases hiff.mpr ⟨hpending, hreplaced⟩
    exact ⟨index, _, hafter, Slot.waits_iff.mpr ⟨hdialect, rfl⟩, rfl⟩

theorem replace_of_not_hasBlockAt {document : Document} {index : Nat}
    (h : document.hasBlockAt index = false) (forest : Forest) :
    document.replace index forest = document := by
  have hsegments : document.segments.modify index (Segment.mapSlot (Slot.replace forest)) =
      document.segments := by
    apply List.ext_getElem?
    intro place
    rw [List.getElem?_modify]
    split
    · rename_i hplace
      subst hplace
      cases hsegment : document.segments[index]? with
      | none => rfl
      | some segment =>
          cases segment with
          | plain content => rfl
          | block slot =>
              rw [hasBlockAt, hsegment] at h
              cases h
    · cases document.segments[place]? <;> rfl
  rw [replace, hsegments]

theorem map_unreplaced_of_pending {segments : List Segment}
    (h : ∀ slot, .block slot ∈ segments → slot.replacement = none) :
    segments.map Segment.unreplaced = segments := by
  rw [← List.map_id segments, List.map_map]
  apply List.map_congr_left
  intro segment hmem
  cases segment with
  | plain content => rfl
  | block slot =>
      have hnone := h slot hmem
      cases slot
      cases hnone
      rfl

/-- What is true of a document that some operations have led to from the reading of a text. -/
structure Keeps (html : Html.Engine) (text : Text) (operations : List Operation)
    (document : Document) : Prop where
  /-- But for the forests, the segments are those that were read. -/
  segments : document.segments.map Segment.unreplaced = (parse html.tokenize text).segments
  /-- A block that has been replaced stays replaced. -/
  replaced : ∀ earlier later, operations = earlier ++ later → ∀ (index : Nat) (slot : Slot),
    ((parse html.tokenize text).after earlier).segments[index]? = some (.block slot) →
    slot.isPending = false →
    ∃ last, document.segments[index]? = some (.block last) ∧ last.isPending = false
  /-- Replacing what is no block changes nothing. -/
  dropped : ∀ index forest, document.hasBlockAt index = false →
    document.replace index forest = document
  /-- The pending blocks of a dialect are those that were never replaced, each once and in order. -/
  increasing : ∀ dialect, ((document.pending dialect).map PendingBlock.location).Pairwise (· < ·)
  mem_pending : ∀ dialect block, block ∈ document.pending dialect ↔
    ∃ index slot, (parse html.tokenize text).segments[index]? = some (.block slot) ∧
      slot.dialect = dialect ∧ ¬ (parse html.tokenize text).Replaced operations index ∧
      block = ⟨dialect, slot.source, index⟩
  /-- Style sheets are added at the end. -/
  stylesheets : ∀ earlier later, operations = earlier ++ later →
    ((parse html.tokenize text).after earlier).stylesheets <+: document.stylesheets
  /-- Without style sheets the text is written with the forests in the place of their blocks. -/
  spelling : document.segments.flatMap Segment.spelling = text
  render : document.stylesheets = [] →
    document.render html.serialize = document.segments.flatMap fun segment =>
      match segment.forest? with
      | some forest => Html.renderForest html.serialize forest
      | none => segment.spelling

theorem keeps_after (html : Html.Engine) (text : Text) (operations : List Operation) :
    Keeps html text operations ((parse html.tokenize text).after operations) := by
  have hdivision : Division html.tokenize text (parse html.tokenize text).segments :=
    division_parse html.tokenize text
  have hsegments : ((parse html.tokenize text).after operations).segments.map Segment.unreplaced =
      (parse html.tokenize text).segments := by
    rw [segments_after, map_unreplaced_of_pending fun _ => replacement_of_block_mem_parse]
  constructor
  case segments => exact hsegments
  case replaced =>
    rintro earlier later rfl index slot hslot hreplaced
    obtain ⟨replacement, hafter, hiff⟩ := getElem?_after later hslot
    rw [after_append]
    refine ⟨_, hafter, ?_⟩
    cases replacement with
    | none => exact absurd (hiff.mp rfl).1 (by simp [hreplaced])
    | some forest => rfl
  case dropped =>
    intro index forest h
    exact replace_of_not_hasBlockAt h forest
  case increasing =>
    intro dialect
    exact pairwise_pending _ dialect
  case mem_pending =>
    intro dialect block
    rw [mem_pending_after_iff]
    constructor
    · rintro ⟨index, slot, hslot, hwaits, hrest⟩
      exact ⟨index, slot, hslot, (Slot.waits_iff.mp hwaits).1, hrest⟩
    · rintro ⟨index, slot, hslot, hdialect, hrest⟩
      have hnone : slot.replacement = none :=
        replacement_of_block_mem_parse (List.mem_of_getElem? hslot)
      exact ⟨index, slot, hslot,
        Slot.waits_iff.mpr ⟨hdialect, Option.isNone_iff_eq_none.mpr hnone⟩, hrest⟩
  case stylesheets =>
    rintro earlier later rfl
    rw [after_append]
    exact stylesheets_after _ later
  case spelling =>
    calc
      ((parse html.tokenize text).after operations).segments.flatMap Segment.spelling =
          (((parse html.tokenize text).after operations).segments.map Segment.unreplaced).flatMap
            Segment.spelling := by
        rw [List.flatMap_map]
        exact List.flatMap_congr fun segment _ => segment.spelling_unreplaced.symm
      _ = text := by rw [hsegments, hdivision.flatMap_spelling]
  case render =>
    intro hstylesheets
    rw [render, if_pos (List.isEmpty_iff.mpr hstylesheets), body]
    apply List.flatMap_congr
    intro segment _
    cases segment with
    | plain content => rfl
    | block slot =>
        rw [Segment.render, Segment.forest?, Segment.slot?, Option.bind_some]
        rfl

theorem exists_replaced_block_among_dropped_forests :
    ∃ (text : Text) (start : Document) (first : Operation) (later : List Operation) (slot : Slot),
      start = parse Html.Standard.tokenize text ∧
      (start.after [first]).segments[2]? = some (.block slot) ∧ slot.isPending = false ∧
      (start.after (first :: later)).hasBlockAt 9 = false ∧
      (start.after (first :: later)).replace 9 .nil = start.after (first :: later) ∧
      (∃ last, (start.after (first :: later)).segments[2]? = some (.block last) ∧
        last.isPending = false) ∧
      (start.after (first :: later)).stylesheets = [] ∧
      (start.after (first :: later)).render Html.Standard.serialize =
        "a<aht>@p\x7b</aht>cc".toList := by
  let text : Text := "a<aht>@p\x7b</aht><aht>b</aht>".toList
  let start := parse Html.Standard.tokenize text
  let later : List Operation :=
    [.replace 0 .nil, .replace 2 (.text ['c'] .nil), .edit fun _ forest => forest ++ forest,
      .replace 7 .nil, .compile { strictStylesheets := true }]
  let slot : Slot :=
    { dialect := .markup
      raw := "<aht>b</aht>".toList
      source := ['b']
      replacement := some (.text ['b'] .nil) }
  have hkeeps := keeps_after Html.Standard.engine text (.compile {} :: later)
  have hslot : (start.after [.compile {}]).segments[2]? = some (.block slot) := by
    decide +kernel
  have hblock : (start.after (.compile {} :: later)).hasBlockAt 9 = false := by decide +kernel
  have hstylesheets : (start.after (.compile {} :: later)).stylesheets = [] := by decide +kernel
  refine ⟨text, start, .compile {}, later, slot, rfl, hslot, rfl, hblock,
    hkeeps.dropped 9 .nil hblock, hkeeps.replaced [.compile {}] later rfl 2 slot hslot rfl,
    hstylesheets, ?_⟩
  exact (hkeeps.render hstylesheets).trans (by decide +kernel)

end Document

end Inlay
