import Inlay.Log.Record
import Inlay.Text.Blank
import Inlay.Text.Search

/-!
Log filters. A filter is written as directives with commas between them, each a level, a target
with a level, or a target alone, which lets everything through. Of the directives whose target
begins the target of a record, the one with the longest target decides. After a slash a filter
may name a text that every message has to contain.
-/

namespace Inlay.Log

/-- Up to which level records pass; nothing passes `off`. -/
inductive Limit where
  | off
  | upTo (level : Level)
  deriving DecidableEq, Repr, Inhabited

namespace Limit

def all : Limit := upTo .trace

def allows : Limit → Level → Bool
  | off, _ => false
  | upTo limit, level => level.verbosity ≤ limit.verbosity

def names : List (Text × Limit) :=
  [("off".toList, off), ("error".toList, upTo .error), ("warn".toList, upTo .warn),
    ("info".toList, upTo .info), ("debug".toList, upTo .debug), ("trace".toList, upTo .trace)]

def named? (name : Text) : Option Limit :=
  names.lookup (Text.lower name)

end Limit

/-- A limit for the records under a target, or for all records. -/
structure Directive where
  target : Option Text
  limit : Limit
  deriving DecidableEq, Repr

namespace Directive

def applies (directive : Directive) (target : Text) : Bool :=
  match directive.target with
  | none => true
  | some start => start.isPrefixOf target

def length (directive : Directive) : Nat :=
  (directive.target.map Text.utf8Size).getD 0

end Directive

/-- A part of a filter that makes no sense and is left out. -/
inductive FilterProblem where
  | unreadable (part : Text)
  | tooManySlashes (spec : Text)
  deriving DecidableEq, Repr

def FilterProblem.line : FilterProblem → Text
  | .unreadable part =>
      "warning: invalid logging spec '".toList ++ part ++ "', ignoring it\n".toList
  | .tooManySlashes spec =>
      "warning: invalid logging spec '".toList ++ spec ++
        "' (too many '/'s), ignoring it\n".toList

def readDirective (part : Text) : Except FilterProblem Directive :=
  match Text.splitOn '=' part with
  | [name] =>
      match Limit.named? name with
      | some limit => .ok ⟨none, limit⟩
      | none => .ok ⟨some name, .all⟩
  | [target, level] =>
      let level := Text.trim level
      if level.isEmpty then
        .ok ⟨some target, .all⟩
      else
        match Limit.named? level with
        | some limit => .ok ⟨some target, limit⟩
        | none => .error (.unreadable level)
  | _ => .error (.unreadable part)

structure Filter where
  directives : List Directive
  /-- A text that every message has to contain. -/
  needle : Option Text := none
  deriving DecidableEq, Repr

namespace Filter

def addDirective (directive : Directive) : List Directive → List Directive
  | [] => [directive]
  | first :: rest =>
      if first.target = directive.target then directive :: rest
      else first :: addDirective directive rest

def readParts (directives : List Directive) :
    List Text → List Directive × List FilterProblem
  | [] => (directives, [])
  | part :: rest =>
      let part := Text.trim part
      if part.isEmpty then
        readParts directives rest
      else
        match readDirective part with
        | .ok directive => readParts (addDirective directive directives) rest
        | .error problem =>
            let (read, problems) := readParts directives rest
            (read, problem :: problems)

/-- Without any directive only errors pass. -/
def orErrors (directives : List Directive) : List Directive :=
  if directives.isEmpty then [⟨none, .upTo .error⟩] else directives

def parse (spec : Text) : Filter × List FilterProblem :=
  let read (parts : Text) (needle : Option Text) : Filter × List FilterProblem :=
    let (directives, problems) := readParts [] (Text.splitOn ',' parts)
    (⟨orErrors directives, needle⟩, problems)
  match Text.splitOn '/' spec with
  | [parts] => read parts none
  | [parts, needle] => read parts (some needle)
  | _ => (⟨orErrors [], none⟩, [.tooManySlashes spec])

/-- Of two directives the one with the longer target, and the later one of equals. -/
def closer (best : Option Directive) (directive : Directive) : Option Directive :=
  match best with
  | none => some directive
  | some found => if found.length ≤ directive.length then some directive else best

def decisive? (filter : Filter) (target : Text) : Option Directive :=
  (filter.directives.filter (·.applies target)).foldl closer none

def allows (filter : Filter) (record : Record) : Bool :=
  (filter.decisive? record.target).any (·.limit.allows record.level) &&
    filter.needle.all (Text.hasInfix · record.message)

def lines (filter : Filter) (records : List Record) : Text :=
  (records.filter filter.allows).flatMap Record.line

def defaultSpec : Text :=
  "warn,hatet_engine=info,hatet_markup=info".toList

/-- A chosen filter comes first, even an empty one, then that of the environment unless it is
blank. -/
def chooseSpec (chosen inherited : Option Text) : Text :=
  match chosen, inherited with
  | some spec, _ => spec
  | none, some spec => if (Text.trim spec).isEmpty then defaultSpec else spec
  | none, none => defaultSpec

end Filter

end Inlay.Log
