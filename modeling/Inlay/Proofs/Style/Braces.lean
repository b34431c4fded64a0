import Inlay.Proofs.Style.Composition

namespace Inlay.Style

def isBrace (c : Char) : Bool :=
  c == '{' || c == '}'

def braces (css : Text) : Text :=
  css.filter isBrace

def InPairs (text : Text) : Prop :=
  ∃ pairs, text = (List.replicate pairs ['{', '}']).flatten

theorem inPairs_nil : InPairs [] := ⟨0, rfl⟩

theorem inPairs_cons_iff {c : Char} {rest : Text} :
    InPairs (c :: rest) ↔ c = '{' ∧ ∃ tail, rest = '}' :: tail ∧ InPairs tail := by
  constructor
  · intro h
    obtain ⟨pairs, htext⟩ := h
    cases pairs with
    | zero => cases htext
    | succ pairs =>
        rw [List.replicate_succ, List.flatten_cons] at htext
        cases htext
        exact ⟨rfl, _, rfl, pairs, rfl⟩
  · intro h
    obtain ⟨rfl, tail, rfl, pairs, rfl⟩ := h
    exact ⟨pairs + 1, rfl⟩

theorem InPairs.count_eq {text : Text} (h : InPairs text) : text.count '{' = text.count '}' := by
  obtain ⟨pairs, rfl⟩ := h
  induction pairs with
  | zero => rfl
  | succ pairs ih =>
      rw [List.replicate_succ, List.flatten_cons, List.count_append, List.count_append, ih]
      rfl

def Line.brace : Line → Text
  | opening _ => ['{']
  | closing => ['}']
  | declaration _ _ => []
  | ignored => []

/-- The brace of a block that is open waits for its partner. -/
def openBrace (current : Option OpenBlock) : Text :=
  current.elim [] (fun _ => ['{'])

theorem inPairs_step (first : Line) (number : Nat) (current : Option OpenBlock) (rest : Text) :
    InPairs (openBrace current ++ (first.brace ++ rest)) ↔
      ∃ next, first.step number current = .ok next ∧ InPairs (openBrace next ++ rest) := by
  cases first with
  | opening selector =>
      cases current <;> simp [Line.step, Line.brace, openBrace, inPairs_cons_iff]
  | closing => cases current <;> simp [Line.step, Line.brace, openBrace, inPairs_cons_iff]
  | declaration property value => simp [Line.step, Line.brace]
  | ignored => simp [Line.step, Line.brace]

theorem exists_strictFrom_iff_inPairs (lines : List Line) (number : Nat)
    (current : Option OpenBlock) :
    (∃ css, strictFrom number current lines = .ok css) ↔
      InPairs (openBrace current ++ lines.flatMap Line.brace) := by
  induction lines generalizing number current with
  | nil =>
      cases current with
      | none => exact ⟨fun _ => inPairs_nil, fun _ => ⟨[], rfl⟩⟩
      | some block => simp [strictFrom, openBrace, inPairs_cons_iff]
  | cons first rest ih =>
      rw [List.flatMap_cons, inPairs_step first number]
      constructor
      · intro h
        obtain ⟨css, hcss⟩ := h
        obtain ⟨next, tail, hstep, htail, -⟩ := strictFrom_cons_eq_ok_iff.mp hcss
        exact ⟨next, hstep, (ih (number + 1) next).mp ⟨tail, htail⟩⟩
      · intro h
        obtain ⟨next, hstep, hpairs⟩ := h
        obtain ⟨tail, htail⟩ := (ih (number + 1) next).mpr hpairs
        exact ⟨_, strictFrom_cons_eq_ok_iff.mpr ⟨next, tail, hstep, htail, rfl⟩⟩

theorem braces_of_braceless {text : Text} (h : ∀ c ∈ text, isBrace c = false) :
    braces text = [] := by
  rw [braces, List.filter_eq_nil_iff]
  intro c hc
  simp [h c hc]

theorem braces_append (front back : Text) : braces (front ++ back) = braces front ++ braces back :=
  List.filter_append front back

def opensBlock (raw : Text) : Bool :=
  (Text.trim raw).head? == some '!'

namespace Line.Reads

variable {raw : Text} {line : Line}

theorem count_brace (h : Reads raw line) :
    line.brace.count '{' = if opensBlock raw then 1 else 0 := by
  have hother (begins : (Text.trim raw).head? ≠ some '!') : opensBlock raw = false :=
    beq_false_of_ne begins
  cases h with
  | opening trim_eq =>
      rw [opensBlock, trim_eq]
      rfl
  | closing trim_eq =>
      rw [opensBlock, trim_eq]
      rfl
  | declaration begins space words_eq =>
      rw [hother begins]
      rfl
  | ignored begins notClosing noSpace =>
      rw [hother begins]
      rfl

theorem braces_toCss (h : Reads raw line) (hraw : ∀ c ∈ raw, isBrace c = false) :
    braces line.toCss = line.brace := by
  cases h with
  | @opening selector trim_eq =>
      have hselector : ∀ c ∈ Text.trim selector, isBrace c = false :=
        fun c hc => hraw c (mem_of_mem_selector trim_eq hc)
      rw [toCss, braces_append, braces_of_braceless hselector]
      rfl
  | closing => rfl
  | @declaration property first others begins space words_eq =>
      have hword : ∀ word ∈ property :: first :: others, ∀ c ∈ word, isBrace c = false := by
        intro word hword c hc
        rw [← words_eq] at hword
        exact hraw c (Text.mem_of_mem_trim (Text.mem_of_mem_words hword hc))
      obtain ⟨hproperty, hothers⟩ := List.forall_mem_cons.mp hword
      have hvalue : ∀ c ∈ Text.unwords (first :: others), isBrace c = false := by
        intro c hc
        rcases Text.mem_unwords hc with rfl | ⟨part, hpart, hc⟩
        · rfl
        · exact hothers part hpart c hc
      rw [toCss, braces_append, braces_append, braces_append, braces_of_braceless hproperty,
        braces_of_braceless hvalue]
      rfl
  | ignored => rfl

end Line.Reads

theorem braces_compile {source : Text} (h : ∀ c ∈ source, isBrace c = false) :
    braces (compile source) = (readLines source).flatMap Line.brace := by
  rw [compile, cssOfLines, braces, List.filter_flatMap]
  apply List.flatMap_congr
  intro line hline
  obtain ⟨raw, hraw, rfl⟩ := List.mem_map.mp hline
  apply (Line.reads_classify raw).braces_toCss
  exact fun c hc => h c (Text.mem_of_mem_lines hraw hc)

theorem count_brace_readLines (source : Text) :
    ((readLines source).flatMap Line.brace).count '{' =
      (Text.lines source).countP opensBlock := by
  rw [readLines]
  induction Text.lines source with
  | nil => rfl
  | cons raw rest ih =>
      rw [List.map_cons, List.flatMap_cons, List.count_append, ih,
        (Line.reads_classify raw).count_brace, List.countP_cons, Nat.add_comm]

theorem compileStrict_accepts_iff_inPairs {source : Text} (hopening : '{' ∉ source)
    (hclosing : '}' ∉ source) :
    ((∃ css, compileStrict source = .ok css) ↔ InPairs (braces (compile source))) ∧
      ∀ css, compileStrict source = .ok css →
        (compile source).count '{' = (compile source).count '}' ∧
          (compile source).count '{' = (Text.lines source).countP opensBlock := by
  have hbraceless : ∀ c ∈ source, isBrace c = false := by
    intro c hc
    rw [isBrace, Bool.or_eq_false_iff]
    refine ⟨beq_false_of_ne ?_, beq_false_of_ne ?_⟩
    · exact fun heq => hopening (heq ▸ hc)
    · exact fun heq => hclosing (heq ▸ hc)
  have hbraces := braces_compile hbraceless
  have haccepted :
      (∃ css, compileStrict source = .ok css) ↔ InPairs (braces (compile source)) := by
    rw [hbraces, compileStrict, exists_strictFrom_iff_inPairs]
    rfl
  refine ⟨haccepted, ?_⟩
  intro css hcss
  have hcount {c : Char} (hc : isBrace c = true) :
      (braces (compile source)).count c = (compile source).count c :=
    List.count_filter hc
  refine ⟨?_, ?_⟩
  · rw [← hcount rfl, ← hcount rfl, (haccepted.mp ⟨css, hcss⟩).count_eq]
  · rw [← hcount rfl, hbraces, count_brace_readLines]

/-- Pairs of braces behind each other are accepted; a pair inside of another is not, though it is as
well balanced. -/
theorem exists_accepted_pairs_and_refused_nesting :
    (∃ source css, ('{' ∉ source ∧ '}' ∉ source) ∧ compileStrict source = .ok css ∧
      InPairs (braces (compile source)) ∧
      ((compile source).count '{' = (compile source).count '}' ∧
        (compile source).count '{' = (Text.lines source).countP opensBlock) ∧
      (Text.lines source).countP opensBlock = 2) ∧
    ∃ source error, ('{' ∉ source ∧ '}' ∉ source) ∧ compileStrict source = .error error ∧
      (compile source).count '{' = (compile source).count '}' ∧
      ¬ InPairs (braces (compile source)) := by
  have hpairs : '{' ∉ " !\r\n@ x y\n\t@\nwidth 1px\n!b\n@".toList ∧
      '}' ∉ " !\r\n@ x y\n\t@\nwidth 1px\n!b\n@".toList := by
    decide +kernel
  have hnested : '{' ∉ "!a\n!b\n@\n@".toList ∧ '}' ∉ "!a\n!b\n@\n@".toList := by
    decide +kernel
  have haccepted : compileStrict " !\r\n@ x y\n\t@\nwidth 1px\n!b\n@".toList =
      .ok " \x7b @: x y; \x7d\nwidth: 1px; b \x7b \x7d\n".toList := by
    decide +kernel
  have hrefused : compileStrict "!a\n!b\n@\n@".toList = .error (.unclosedBlock 1 "a".toList) := by
    decide +kernel
  refine ⟨⟨_, _, hpairs, haccepted, ?_, ?_, ?_⟩, ⟨_, _, hnested, hrefused, ?_, ?_⟩⟩
  · exact (compileStrict_accepts_iff_inPairs hpairs.1 hpairs.2).1.mp ⟨_, haccepted⟩
  · exact (compileStrict_accepts_iff_inPairs hpairs.1 hpairs.2).2 _ haccepted
  · decide +kernel
  · decide +kernel
  · intro hinside
    obtain ⟨css, hcss⟩ :=
      (compileStrict_accepts_iff_inPairs hnested.1 hnested.2).1.mpr hinside
    rw [hrefused] at hcss
    cases hcss

end Inlay.Style
