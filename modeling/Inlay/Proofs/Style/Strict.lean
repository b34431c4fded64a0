import Inlay.Style.Compile
import Mathlib.Data.List.Chain

namespace Inlay.Style

/-- A line that opens or closes a block, with its number. -/
inductive Directive where
  | opening (line : Nat) (selector : Text)
  | closing (line : Nat)
  deriving DecidableEq, Repr

namespace Directive

def block? : Directive → Option OpenBlock
  | opening line selector => some ⟨line, selector⟩
  | closing _ => none

def opens (directive : Directive) : Bool :=
  directive.block?.isSome

/-- The directive in a line of a given number: the trimmed line begins with `!` or is `@`. -/
def read? (entry : Text × Nat) : Option Directive :=
  match Text.trim entry.1 with
  | '!' :: selector => some (opening entry.2 (Text.trim selector))
  | ['@'] => some (closing entry.2)
  | _ => none

end Directive

def directives (source : Text) : List Directive :=
  ((Text.lines source).zipIdx 1).filterMap Directive.read?

/-- Directives that open and close blocks by turns, from inside a block or from outside. -/
def AlternatingFrom (inside : Bool) (directives : List Directive) : Prop :=
  (inside :: directives.map Directive.opens).IsChain (· ≠ ·)

def Alternating (directives : List Directive) : Prop :=
  AlternatingFrom false directives

def openAfter (current : Option OpenBlock) (directives : List Directive) : Option OpenBlock :=
  (directives.getLast?.map Directive.block?).getD current

structure LongestAlternating (front directives : List Directive) : Prop where
  isPrefix : front <+: directives
  alternating : Alternating front
  longest : ∀ other, other <+: directives → Alternating other → other.length ≤ front.length

/-- What is wrong with directives where their longest alternating start ends. -/
inductive FirstOffence (directives : List Directive) : CompileError → Prop where
  | strayClose {front rest : List Directive} {line : Nat}
      (longest : LongestAlternating front directives)
      (split : directives = front ++ .closing line :: rest)
      (outside : openAfter none front = none) :
      FirstOffence directives (.strayBlockClose line)
  | unclosed {front rest : List Directive} {block : OpenBlock}
      (longest : LongestAlternating front directives)
      (split : directives = front ++ rest)
      (next : ∀ directive ∈ rest.head?, directive.opens = true)
      (inside : openAfter none front = some block) :
      FirstOffence directives (.unclosedBlock block.line block.selector)

def offence? (current : Option OpenBlock) : List Directive → Option CompileError
  | [] => current.map OpenBlock.error
  | .opening line selector :: rest =>
      match current with
      | none => offence? (some ⟨line, selector⟩) rest
      | some block => some block.error
  | .closing line :: rest =>
      match current with
      | none => some (.strayBlockClose line)
      | some _ => offence? none rest

def Line.directive? (entry : Line × Nat) : Option Directive :=
  match entry.1 with
  | .opening selector => some (.opening entry.2 selector)
  | .closing => some (.closing entry.2)
  | _ => none

theorem Directive.read?_eq (raw : Text) (line : Nat) :
    read? (raw, line) = Line.directive? (Line.classify raw, line) := by
  rw [read?]
  split
  · rename_i htrim
    simp only [Line.classify, htrim]
    rfl
  · rename_i htrim
    simp only [Line.classify, htrim]
    rfl
  · rename_i hopening hclosing
    rw [Line.classify]
    split
    · rename_i htrim
      exact absurd htrim (hopening _)
    · rename_i htrim
      exact absurd htrim hclosing
    · split
      · split <;> rfl
      · rfl

theorem directives_eq (source : Text) :
    directives source = ((readLines source).zipIdx 1).filterMap Line.directive? := by
  rw [directives, readLines, List.zipIdx_map, List.filterMap_map]
  congr 1
  funext entry
  exact Directive.read?_eq entry.1 entry.2

theorem map_eq_error_iff {α : Type} {result : Except CompileError α} {change : α → α}
    {error : CompileError} : result.map change = .error error ↔ result = .error error := by
  cases result <;> simp [Except.map]

theorem strictFrom_eq_error_iff {lines : List Line} {line : Nat} {current : Option OpenBlock}
    {error : CompileError} :
    strictFrom line current lines = .error error ↔
      offence? current ((lines.zipIdx line).filterMap Line.directive?) = some error := by
  induction lines generalizing line current with
  | nil => cases current <;> simp [strictFrom, offence?]
  | cons first rest ih =>
      cases first with
      | opening selector =>
          cases current with
          | none => simp [strictFrom, Line.directive?, offence?, map_eq_error_iff, ih]
          | some block => simp [strictFrom, Line.directive?, offence?]
      | closing =>
          cases current with
          | none => simp [strictFrom, Line.directive?, offence?]
          | some block => simp [strictFrom, Line.directive?, offence?, map_eq_error_iff, ih]
      | declaration property value =>
          have hnone : Line.directive? (.declaration property value, line) = none := rfl
          rw [List.zipIdx_cons, List.filterMap_cons_none hnone, strictFrom, map_eq_error_iff, ih]
      | ignored =>
          have hnone : Line.directive? (.ignored, line) = none := rfl
          rw [List.zipIdx_cons, List.filterMap_cons_none hnone, strictFrom, ih]

theorem alternatingFrom_cons {inside : Bool} {directive : Directive}
    {directives : List Directive} :
    AlternatingFrom inside (directive :: directives) ↔
      inside ≠ directive.opens ∧ AlternatingFrom directive.opens directives := by
  rw [AlternatingFrom, List.map_cons, List.isChain_cons_cons]
  rfl

theorem openAfter_cons (current : Option OpenBlock) (directive : Directive)
    (directives : List Directive) :
    openAfter current (directive :: directives) = openAfter directive.block? directives := by
  rw [openAfter, openAfter, List.getLast?_cons]
  cases directives.getLast? <;> rfl

theorem offence?_append (current : Option OpenBlock) {front : List Directive}
    (h : AlternatingFrom current.isSome front) (rest : List Directive) :
    offence? current (front ++ rest) = offence? (openAfter current front) rest := by
  induction front generalizing current with
  | nil => rfl
  | cons directive front ih =>
      obtain ⟨hturn, hfront⟩ := alternatingFrom_cons.mp h
      rw [openAfter_cons, ← ih directive.block? hfront]
      cases directive with
      | opening line selector =>
          cases current with
          | none => rfl
          | some block => exact absurd rfl hturn
      | closing line =>
          cases current with
          | none => exact absurd rfl hturn
          | some block => rfl

theorem AlternatingFrom.start {inside : Bool} {front rest : List Directive}
    (h : AlternatingFrom inside (front ++ rest)) : AlternatingFrom inside front := by
  rw [AlternatingFrom, List.map_append, ← List.cons_append] at h
  exact h.left_of_append

theorem alternatingFrom_concat (current : Option OpenBlock) {front : List Directive}
    {directive : Directive} (h : AlternatingFrom current.isSome front) :
    AlternatingFrom current.isSome (front ++ [directive]) ↔
      (openAfter current front).isSome ≠ directive.opens := by
  induction front generalizing current with
  | nil => simp [AlternatingFrom, openAfter]
  | cons first front ih =>
      obtain ⟨hturn, hfront⟩ := alternatingFrom_cons.mp h
      rw [List.cons_append, alternatingFrom_cons, openAfter_cons,
        ← ih first.block? hfront]
      exact and_iff_right hturn

/-- Directives can be followed up to one that opens a block inside of another or closes a block
where none is open. -/
theorem exists_alternatingFrom (current : Option OpenBlock) (directives : List Directive) :
    ∃ front rest, directives = front ++ rest ∧ AlternatingFrom current.isSome front ∧
      ∀ next ∈ rest.head?, next.opens = (openAfter current front).isSome := by
  induction directives generalizing current with
  | nil => exact ⟨[], [], rfl, List.isChain_singleton _, by simp⟩
  | cons directive directives ih =>
      by_cases hturn : current.isSome = directive.opens
      · refine ⟨[], directive :: directives, rfl, List.isChain_singleton _, ?_⟩
        rintro next ⟨⟩
        exact hturn.symm
      · obtain ⟨front, rest, hsplit, hfront, hnext⟩ := ih directive.block?
        refine ⟨directive :: front, rest, by rw [hsplit, List.cons_append], ?_, ?_⟩
        · exact alternatingFrom_cons.mpr ⟨hturn, hfront⟩
        · rwa [openAfter_cons]

theorem exists_longestAlternating (directives : List Directive) :
    ∃ front rest, directives = front ++ rest ∧ LongestAlternating front directives ∧
      ∀ next ∈ rest.head?, next.opens = (openAfter none front).isSome := by
  obtain ⟨front, rest, rfl, hfront, hnext⟩ := exists_alternatingFrom none directives
  refine ⟨front, rest, rfl, ⟨List.prefix_append front rest, hfront, ?_⟩, hnext⟩
  intro other hother halternating
  by_contra hlonger
  -- A longer start would take in the next directive as well.
  cases rest with
  | nil =>
      rw [List.append_nil] at hother
      exact hlonger hother.length_le
  | cons next rest =>
      obtain ⟨more, rfl⟩ : front ++ [next] <+: other := by
        apply List.prefix_of_prefix_length_le _ hother
        · rw [List.length_append, List.length_singleton]
          omega
        · exact ⟨rest, by simp⟩
      have hturn := (alternatingFrom_concat none hfront).mp halternating.start
      exact hturn (hnext next rfl).symm

theorem cases_of_directives (directives : List Directive) :
    (Alternating directives ∧ openAfter none directives = none) ∨
      ∃ error, FirstOffence directives error := by
  obtain ⟨front, rest, hsplit, hlongest, hnext⟩ := exists_longestAlternating directives
  cases hopen : openAfter none front with
  | some block =>
      rw [hopen] at hnext
      exact Or.inr ⟨_, .unclosed hlongest hsplit hnext hopen⟩
  | none =>
      rw [hopen] at hnext
      cases rest with
      | nil =>
          rw [List.append_nil] at hsplit
          exact Or.inl ⟨hsplit ▸ hlongest.alternating, hsplit ▸ hopen⟩
      | cons next rest =>
          cases next with
          | opening line selector => cases hnext _ rfl
          | closing line => exact Or.inr ⟨_, .strayClose hlongest hsplit hopen⟩

theorem offence?_of_alternating {directives : List Directive} (h : Alternating directives)
    (hclosed : openAfter none directives = none) : offence? none directives = none := by
  have hwalk := offence?_append none h []
  rwa [List.append_nil, hclosed] at hwalk

theorem FirstOffence.offence?_eq {directives : List Directive} {error : CompileError}
    (h : FirstOffence directives error) : offence? none directives = some error := by
  cases h with
  | strayClose longest split outside =>
      rw [split, offence?_append none longest.alternating, outside]
      rfl
  | @unclosed front rest block longest split next inside =>
      rw [split, offence?_append none longest.alternating, inside]
      cases rest with
      | nil => rfl
      | cons directive rest =>
          cases directive with
          | opening line selector => rfl
          | closing line => cases next _ rfl

theorem compileStrict_eq_error_iff {source : Text} {error : CompileError} :
    compileStrict source = .error error ↔ FirstOffence (directives source) error := by
  rw [compileStrict, strictFrom_eq_error_iff, ← directives_eq]
  constructor
  · intro hoffence
    obtain ⟨halternating, hclosed⟩ | ⟨other, hother⟩ := cases_of_directives (directives source)
    · rw [offence?_of_alternating halternating hclosed] at hoffence
      cases hoffence
    · rw [hother.offence?_eq] at hoffence
      cases hoffence
      exact hother
  · exact FirstOffence.offence?_eq

theorem compileStrict_eq_ok_iff {source css : Text} :
    compileStrict source = .ok css ↔
      (Alternating (directives source) ∧ openAfter none (directives source) = none) ∧
        css = compile source := by
  constructor
  · intro hcss
    refine ⟨?_, eq_cssOfLines_of_strictFrom hcss⟩
    obtain haccepted | ⟨error, herror⟩ := cases_of_directives (directives source)
    · exact haccepted
    · rw [compileStrict_eq_error_iff.mpr herror] at hcss
      cases hcss
  · rintro ⟨⟨halternating, hclosed⟩, rfl⟩
    cases hresult : compileStrict source with
    | ok css => rw [eq_cssOfLines_of_strictFrom hresult, compile]
    | error error =>
        rw [compileStrict, strictFrom_eq_error_iff, ← directives_eq,
          offence?_of_alternating halternating hclosed] at hresult
        cases hresult

theorem compileStrict_follows_directives (source : Text) :
    (∀ css, compileStrict source = .ok css ↔
      (Alternating (directives source) ∧ openAfter none (directives source) = none) ∧
        css = compile source) ∧
      ∀ error, compileStrict source = .error error ↔ FirstOffence (directives source) error :=
  ⟨fun _ => compileStrict_eq_ok_iff, fun _ => compileStrict_eq_error_iff⟩

end Inlay.Style
