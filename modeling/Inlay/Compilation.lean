import Inlay.Host
import Inlay.Markup.Compile
import Inlay.Style.Compile

namespace Inlay

structure CompileOptions where
  /-- Refuse style sheets whose `!` and `@` lines do not alternate. -/
  strictStylesheets : Bool := false
  deriving DecidableEq, Repr, Inhabited

/-- A block that could not be compiled, counted among the blocks of its dialect. -/
structure BlockFailure where
  dialect : Dialect
  index : Nat
  error : CompileError
  deriving DecidableEq, Repr

structure Report where
  stylesheets : Nat := 0
  markup : Nat := 0
  failures : List BlockFailure := []
  deriving DecidableEq, Repr, Inhabited

namespace Report

def isClean (report : Report) : Bool :=
  report.failures.isEmpty

def succeed (report : Report) : Dialect → Report
  | .stylesheet => { report with stylesheets := report.stylesheets + 1 }
  | .markup => { report with markup := report.markup + 1 }

def fail (report : Report) (failure : BlockFailure) : Report :=
  { report with failures := report.failures ++ [failure] }

end Report

inductive Artifact where
  | css (text : Text)
  | nodes (forest : Forest)
  deriving DecidableEq, Repr

def compileStylesheet (options : CompileOptions) (source : Text) : Except CompileError Text :=
  if options.strictStylesheets then Style.compileStrict source else .ok (Style.compile source)

def compileBlock (options : CompileOptions) (dialect : Dialect) (source : Text) :
    Except CompileError Artifact :=
  match dialect with
  | .stylesheet => (compileStylesheet options source).map .css
  | .markup => (Markup.compile source).map .nodes

def compileRecords : Dialect → Text → List Log.Record
  | .stylesheet, _ => []
  | .markup, source => Markup.records source

section

variable {host location : Type} [Host host location]

/-- Hand the artifact of a block to its host. A style sheet leaves nothing in its place. -/
def Host.accept (target : host) (place : location) : Artifact → host
  | .css text => Host.replace (Host.inject target text) place .nil
  | .nodes forest => Host.replace target place forest

/-- How far the compiling of a host has come: the host as it is now, what has been counted and what
has been noted. -/
structure Compilation (host : Type) where
  host : host
  report : Report := {}
  records : List Log.Record := []

namespace Compilation

/-- Compile one block, which is the one of a given number among those of its dialect. -/
def compile (options : CompileOptions) (compilation : Compilation host)
    (entry : PendingBlock location × Nat) : Compilation host :=
  let (block, index) := entry
  let noted := compilation.records ++
    .compilingBlock block.dialect index (Text.utf8Size block.source) ::
      compileRecords block.dialect block.source
  match compileBlock options block.dialect block.source with
  | .ok artifact =>
      { host := Host.accept compilation.host block.location artifact
        report := compilation.report.succeed block.dialect
        records := noted ++ Host.replaceRecords compilation.host block.location }
  | .error error =>
      { host := compilation.host
        report := compilation.report.fail ⟨block.dialect, index, error⟩
        records := noted ++ [.blockLeftUntouched block.dialect index error] }

def compileDialect (options : CompileOptions) (compilation : Compilation host) (dialect : Dialect) :
    Compilation host :=
  (Host.pending compilation.host dialect).zipIdx.foldl (compile options) compilation

def summarize (compilation : Compilation host) : Compilation host :=
  { compilation with
    records := compilation.records ++
      [.transpiled compilation.report.stylesheets compilation.report.markup
        compilation.report.failures.length] }

end Compilation

def compileBlocks (options : CompileOptions) (target : host) : Compilation host :=
  (Dialect.all.foldl (Compilation.compileDialect options) { host := target }).summarize

end

end Inlay
