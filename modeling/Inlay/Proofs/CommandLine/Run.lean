import Inlay.CommandLine.Folder
import Inlay.Html.Standard
import Inlay.Proofs.CommandLine.Page

namespace Inlay.CommandLine

/-- How actions lead from one state of the world to another, step by step. -/
structure Steps (m : Type → Type) [Monad m] (World : Type) where
  Leads {α : Type} : m α → World → α → World → Prop
  pure {α : Type} (value : α) (world : World) : Leads (pure value) world value world
  bind {α β : Type} {action : m α} {next : α → m β} {world between after : World} {value : α}
    {result : β} : Leads action world value between → Leads (next value) between result after →
      Leads (action >>= next) world result after

section

variable {m : Type → Type} [Monad m] {World : Type} (steps : Steps m World)

/-- Surroundings in which messages have no part in what is read and written. -/
structure Steps.Quiet (surroundings : Surroundings m) : Prop where
  report (text : Text) (world : World) : steps.Leads (surroundings.report text) world () world
  filterVariable (world : World) :
    ∃ value, steps.Leads surroundings.filterVariable world value world

variable {steps} {surroundings : Surroundings m} (hquiet : steps.Quiet surroundings)
  (html : Html.Engine) {settings : Settings} {text : Text} {world written : World}

include hquiet

theorem Steps.leads_runSettings
    (hread : steps.Leads (readSource surroundings settings) world (.ok text) world)
    (hwrite : steps.Leads (writePage surroundings settings (Page.ofText html settings text)) world
      (.ok ()) written) :
    steps.Leads (runSettings html surroundings settings) world
      ((Page.ofText html settings text).status settings) written := by
  rw [runSettings]
  obtain ⟨value, hfilter⟩ := hquiet.filterVariable world
  refine steps.bind hfilter ?_
  refine steps.bind (hquiet.report _ world) ?_
  refine steps.bind (hquiet.report _ world) ?_
  refine steps.bind hread ?_
  refine steps.bind (hquiet.report _ world) ?_
  refine steps.bind hwrite ?_
  exact steps.pure _ written

/-- What a run writes in any surroundings in which it can read its text and write its page, and the
exit status that it ends with. -/
theorem Steps.exists_page
    (hread : steps.Leads (readSource surroundings settings) world (.ok text) world) :
    ∃ (parts : PageParts html settings text) (output : Text),
      Document.InsertedInHead parts.styles parts.body output ∧
      ∀ written, (∀ page : Page, page.output = output →
          steps.Leads (writePage surroundings settings page) world (.ok ()) written) →
        ∃ status, steps.Leads (runSettings html surroundings settings) world status written ∧
          (status = 2 ↔ settings.denyFailures = true ∧
            ∃ slot ∈ (Document.parse html.tokenize text).slots,
              slot.Fails { strictStylesheets := settings.strictStyles }) ∧
          (status ≠ 2 → status = 0) := by
  refine ⟨settings.pageParts html text, (Page.ofText html settings text).output,
    Page.insertedInHead_ofText html settings text, ?_⟩
  intro written hwrite
  exact ⟨_, Steps.leads_runSettings hquiet html hread (hwrite _ rfl),
    Page.status_ofText html settings text⟩

end

namespace Folder

def withMessages (messages : Text) (folder : Folder) : Folder :=
  { folder with messages := messages }

def source (folder : Folder) (settings : Settings) : Except FileError Text :=
  match settings.input.filter (· ≠ ['-']) with
  | none => folder.input.elim (.error .notText) .ok
  | some path => folder.readFile path

def save (folder : Folder) (settings : Settings) (output : Text) : Except FileError Folder :=
  match settings.output with
  | none => .ok { folder with output := folder.output ++ output }
  | some path => folder.writeFile path output

section

variable (folder : Folder) (messages : Text)

theorem enter_withMessages (directory : Place) (names : List Text) :
    (folder.withMessages messages).enter directory names = folder.enter directory names := by
  induction names generalizing directory with
  | nil => rfl
  | cons name rest ih =>
      simp only [enter, ih]
      rfl

theorem locate_withMessages (path : Text) :
    (folder.withMessages messages).locate path = folder.locate path := by
  simp only [locate, enter_withMessages]

theorem readFile_withMessages (path : Text) :
    (folder.withMessages messages).readFile path = folder.readFile path := by
  simp only [readFile, locate_withMessages]
  rfl

theorem writeFile_withMessages (path content : Text) :
    (folder.withMessages messages).writeFile path content =
      (folder.writeFile path content).map (withMessages messages) := by
  have hdirectory : (folder.withMessages messages).hasDirectory = folder.hasDirectory := rfl
  rw [writeFile, writeFile, locate_withMessages]
  cases folder.locate path with
  | error error => rfl
  | ok target =>
      obtain ⟨directory, name⟩ := target
      simp only [Bind.bind, Except.bind, hdirectory]
      split
      · rfl
      · split
        · rfl
        · cases directory with
          | inside names =>
              dsimp only
              split <;> rfl
          | around => rfl

end

/-- Whether an action gives a value and leads from one folder to another, but for the messages. -/
def Leads {α : Type} (action : StateM Folder α) (folder : Folder) (value : α)
    (after : Folder) : Prop :=
  ∀ messages, ∃ later,
    action.run (folder.withMessages messages) = (value, after.withMessages later)

namespace Leads

variable {α β : Type} {folder between after : Folder}

theorem pure (value : α) (folder : Folder) : Leads (Pure.pure value) folder value folder :=
  fun messages => ⟨messages, rfl⟩

theorem bind {action : StateM Folder α} {next : α → StateM Folder β} {value : α} {result : β}
    (hfirst : Leads action folder value between) (hnext : Leads (next value) between result after) :
    Leads (action >>= next) folder result after := by
  intro messages
  obtain ⟨later, hlater⟩ := hfirst messages
  obtain ⟨last, hlast⟩ := hnext later
  refine ⟨last, ?_⟩
  rw [StateT.run_bind, hlater]
  exact hlast

theorem report (text : Text) (folder : Folder) :
    Leads (surroundings.report text) folder () folder :=
  fun messages => ⟨messages ++ text, rfl⟩

theorem filterVariable (folder : Folder) :
    Leads surroundings.filterVariable folder folder.filterVariable folder :=
  fun messages => ⟨messages, rfl⟩

theorem print (text : Text) (folder : Folder) :
    Leads (surroundings.print text) folder () { folder with output := folder.output ++ text } :=
  fun messages => ⟨messages, rfl⟩

theorem readInput (folder : Folder) :
    Leads surroundings.readInput folder (folder.input.elim (.error .notText) .ok) folder := by
  intro messages
  refine ⟨messages, ?_⟩
  have hinput : (folder.withMessages messages).input = folder.input := rfl
  simp only [surroundings, StateT.run_bind, StateT.run_get, pure_bind, hinput]
  cases folder.input <;> rfl

theorem readFile (path : Text) (folder : Folder) :
    Leads (surroundings.readFile path) folder (folder.readFile path) folder := by
  intro messages
  rw [← folder.readFile_withMessages messages]
  exact ⟨messages, rfl⟩

theorem writeFile {path content : Text} {written : Folder}
    (h : folder.writeFile path content = .ok written) :
    Leads (surroundings.writeFile path content) folder (.ok ()) written := by
  intro messages
  have hwritten := folder.writeFile_withMessages messages path content
  rw [h] at hwritten
  refine ⟨messages, ?_⟩
  simp only [surroundings, StateT.run_bind, StateT.run_get, pure_bind, hwritten]
  rfl

theorem readSource {settings : Settings} {text : Text} (h : folder.source settings = .ok text) :
    Leads (readSource surroundings settings) folder (.ok text) folder := by
  rw [CommandLine.readSource]
  cases hinput : settings.input.filter (· ≠ ['-']) with
  | none =>
      simp only [source, hinput] at h
      refine (readInput folder).bind ?_
      rw [h]
      exact pure _ folder
  | some path =>
      simp only [source, hinput] at h
      refine (readFile path folder).bind ?_
      rw [h]
      exact pure _ folder

theorem writePage {settings : Settings} {page : Page} {written : Folder}
    (h : folder.save settings page.output = .ok written) :
    Leads (writePage surroundings settings page) folder (.ok ()) written := by
  rw [CommandLine.writePage]
  cases houtput : settings.output with
  | none =>
      rw [save, houtput] at h
      cases h
      exact (print page.output folder).bind (pure _ _)
  | some path =>
      rw [save, houtput] at h
      exact (writeFile h).bind (pure _ written)

end Leads

def steps : Steps (StateM Folder) Folder where
  Leads := Leads
  pure := Leads.pure
  bind := Leads.bind

theorem quiet_surroundings : steps.Quiet surroundings where
  report := Leads.report
  filterVariable folder := ⟨_, Leads.filterVariable folder⟩

end Folder

/-- What a run writes when it can read its text and write its page, and the exit status that it ends
with. The styles stand at the first end of a head in the body, and the status tells of blocks that
failed, if it was asked to. -/
theorem runSettings_writes_page (html : Html.Engine) {folder : Folder} {settings : Settings}
    {text : Text} (hsource : folder.source settings = .ok text) :
    ∃ (parts : PageParts html settings text) (output : Text),
      Document.InsertedInHead parts.styles parts.body output ∧
      ∀ written, folder.save settings output = .ok written → ∃ status messages,
        (runSettings html Folder.surroundings settings).run folder =
          (status, written.withMessages messages) ∧
        (status = 2 ↔ settings.denyFailures = true ∧
          ∃ slot ∈ (Document.parse html.tokenize text).slots,
            slot.Fails { strictStylesheets := settings.strictStyles }) ∧
        (status ≠ 2 → status = 0) := by
  obtain ⟨parts, output, hinserted, hruns⟩ :=
    Steps.exists_page Folder.quiet_surroundings html (Folder.Leads.readSource hsource)
  refine ⟨parts, output, hinserted, ?_⟩
  intro written hsave
  have hwrite : ∀ page : Page, page.output = output →
      Folder.Leads (writePage Folder.surroundings settings page) folder (.ok ()) written := by
    rintro page rfl
    exact Folder.Leads.writePage hsave
  obtain ⟨status, hrun, hstatus⟩ := hruns written hwrite
  obtain ⟨messages, hmessages⟩ := hrun folder.messages
  exact ⟨status, messages, hmessages, hstatus⟩

theorem exists_page_around_failing_block :
    ∃ (folder : Folder) (settings : Settings) (text : Text)
      (parts : PageParts Html.Standard.engine settings text),
      folder.source settings = .ok text ∧
      Document.InsertedInHead parts.styles parts.body
        ("<head><style>b \x7b margin: 0; \x7d\n</style>\n" ++
          "<style>:root \x7b --a: <\\/; --b: 2; \x7d\n</style>\n" ++
          "</HEAD><p k=\"u\">2</p><aht>@q\x7b</aht>").toList ∧
      ((runSettings Html.Standard.engine Folder.surroundings settings).run folder).1 = 2 := by
  let text : Text :=
    ("<head></HEAD><AAAD>!b\nmargin 0\n@</AAAD><AHT>@p(k=u)\x7b1\x7d</AHT>" ++
      "<aht>@q\x7b</aht>").toList
  let settings : Settings :=
    { values := [(['u'], ['1']), (['u'], ['2'])]
      styleVariables := [("--b".toList, ['1']), (['a'], "</".toList), (['b'], " 2".toList)]
      marker := some ['k']
      denyFailures := true }
  let folder : Folder := { input := some text }
  have hsource : folder.source settings = .ok text := rfl
  obtain ⟨parts, output, hinserted, hwrites⟩ := runSettings_writes_page Html.Standard.engine hsource
  obtain ⟨status, messages, hrun, hstatus, -⟩ := hwrites _ rfl
  have hfails : ∃ slot ∈ (Document.parse Html.Standard.tokenize text).slots, slot.Fails {} :=
    ⟨{ dialect := .markup, raw := "<aht>@q\x7b</aht>".toList, source := "@q\x7b".toList },
      by decide +kernel, .unbalancedTag 0 ['q'], by decide +kernel⟩
  have houtput :
      ((runSettings Html.Standard.engine Folder.surroundings settings).run folder).2.output =
      ("<head><style>b \x7b margin: 0; \x7d\n</style>\n" ++
        "<style>:root \x7b --a: <\\/; --b: 2; \x7d\n</style>\n" ++
        "</HEAD><p k=\"u\">2</p><aht>@q\x7b</aht>").toList := by
    decide +kernel
  rw [hrun] at houtput
  refine ⟨folder, settings, text, parts, hsource, ?_, ?_⟩
  · rwa [← houtput]
  · rw [hrun]
    exact hstatus.mpr ⟨rfl, hfails⟩

end Inlay.CommandLine
