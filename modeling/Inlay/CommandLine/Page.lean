import Inlay.CommandLine.Settings
import Inlay.Compilation
import Inlay.Document.Parse
import Inlay.Document.Render
import Inlay.Style.Variables

namespace Inlay.CommandLine

namespace Settings

def options (settings : Settings) : CompileOptions :=
  { strictStylesheets := settings.strictStyles }

def template (settings : Settings) : Template :=
  (Template.empty.withMarker (settings.marker.getD Template.defaultMarker)).setMany
    settings.values

def rootVariables (settings : Settings) : Style.Variables :=
  Style.Variables.empty.setMany settings.styleVariables

end Settings

/-- The written document, whether all blocks were compiled, and what was noted. -/
structure Page where
  output : Text
  clean : Bool
  records : List Log.Record
  deriving DecidableEq, Repr

def fillSlots (template : Template) (document : Document) : Document :=
  if template.isEmpty then document else document.mapForests template.fill

def fillRecords (template : Template) (document : Document) : List Log.Record :=
  if template.isEmpty then []
  else [.slotsFilled (template.slotCountAll document.forests)]

def addVariables (store : Style.Variables) (document : Document) : Document :=
  if store.isEmpty then document else document.inject store.toCss

def Page.ofText (html : Html.Engine) (settings : Settings) (text : Text) : Page :=
  let document := Document.parse html.tokenize text
  let compilation := compileBlocks settings.options document
  let filled := fillSlots settings.template compilation.host
  { output := (addVariables settings.rootVariables filled).render html.serialize
    clean := compilation.report.isClean
    records := Document.parseRecords html.tokenize text ++ .blocksFound document.blockCount ::
      compilation.records ++ fillRecords settings.template compilation.host }

def Page.status (settings : Settings) (page : Page) : Nat :=
  if settings.denyFailures && !page.clean then 2 else 0

end Inlay.CommandLine
