import Inlay.CommandLine.Arguments
import Inlay.CommandLine.Page
import Inlay.Log.Filter

namespace Inlay.CommandLine

inductive FileError where
  | notFound
  | isDirectory
  | notDirectory
  | nameTooLong
  | notText
  | other (reason : Text)
  deriving DecidableEq, Repr

def FileError.message : FileError → Text
  | .notFound => "No such file or directory (os error 2)".toList
  | .isDirectory => "Is a directory (os error 21)".toList
  | .notDirectory => "Not a directory (os error 20)".toList
  | .nameTooLong => "File name too long (os error 36)".toList
  | .notText => "stream did not contain valid UTF-8".toList
  | .other reason => reason

structure Surroundings (m : Type → Type) where
  readInput : m (Except FileError Text)
  readFile : Text → m (Except FileError Text)
  writeFile : Text → Text → m (Except FileError Unit)
  /-- Write to the standard output. -/
  print : Text → m Unit
  /-- Write to the standard error stream. -/
  report : Text → m Unit
  /-- The log filter that the environment names. -/
  filterVariable : m (Option Text)

section

variable {m : Type → Type} [Monad m]

/-- What was being done to which thing, and why it failed. -/
def failure (activity thing : Text) (error : FileError) : Text :=
  activity ++ thing ++ ": ".toList ++ error.message

def readSource (surroundings : Surroundings m) (settings : Settings) :
    m (Except Text Text) := do
  match settings.input.filter (· ≠ ['-']) with
  | none => return (← surroundings.readInput).mapError (failure "reading ".toList "stdin".toList)
  | some path => return (← surroundings.readFile path).mapError (failure "reading ".toList path)

def writePage (surroundings : Surroundings m) (settings : Settings) (page : Page) :
    m (Except Text Unit) := do
  match settings.output with
  | none =>
      surroundings.print page.output
      return .ok ()
  | some path =>
      return (← surroundings.writeFile path page.output).mapError
        (failure "writing ".toList path)

/-- Read, compile and write; the result is the exit status. -/
def runSettings (html : Html.Engine) (surroundings : Surroundings m) (settings : Settings) :
    m Nat := do
  let spec := Log.Filter.chooseSpec settings.log (← surroundings.filterVariable)
  let (filter, problems) := Log.Filter.parse spec
  let note (records : List Log.Record) : m Unit := surroundings.report (filter.lines records)
  surroundings.report (problems.flatMap Log.FilterProblem.line)
  note [.loggingStarted spec]
  match ← readSource surroundings settings with
  | .error cause =>
      note [.runFailed cause]
      return 1
  | .ok text =>
      let page := Page.ofText html settings text
      note page.records
      match ← writePage surroundings settings page with
      | .error cause =>
          note [.runFailed cause]
          return 1
      | .ok () => return page.status settings

def run (html : Html.Engine) (surroundings : Surroundings m) (arguments : List Text) : m Nat := do
  match readArguments arguments with
  | .ok settings => runSettings html surroundings settings
  | .error (.usage error) =>
      surroundings.report (error.line ++ ['\n'])
      return 2
  | .error .version =>
      surroundings.print versionText
      return 0
  | .error .help =>
      surroundings.print helpText
      return 0

end

end Inlay.CommandLine
