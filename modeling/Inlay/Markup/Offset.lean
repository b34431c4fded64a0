import Inlay.Markup.Brace
import Inlay.Markup.Head

namespace Inlay.Markup

inductive OffsetError where
  | insideCharacter
  | outOfRange
  deriving DecidableEq, Repr

/-- A head with the offset of its `@` and the offset just behind its `{`. -/
structure LocatedHead where
  start : Nat
  head : Head
  bodyStart : Nat
  deriving DecidableEq, Repr

/-- The part of a source in which a head is looked for. Nothing is looked for in an empty part;
an end beyond the source stands for the end of the source. -/
def headSpan (source : Text) (start stop : Nat) : Except OffsetError (Option Text) :=
  let stop := min stop (Text.utf8Size source)
  if stop ≤ start then
    .ok none
  else
    match Text.slice? source start stop with
    | some span => .ok (some span)
    | none => .error .insideCharacter

/-- The head at an offset of a source, if one ends before another offset. -/
def headAt? (source : Text) (start stop : Nat) : Except OffsetError (Option LocatedHead) :=
  (headSpan source start stop).map fun span => do
    let span ← span
    let (head, _) ← Head.scan? span
    return ⟨start, head, start + head.size⟩

def headRecordsAt (source : Text) (start stop : Nat) : List Log.Record :=
  match headSpan source start stop with
  | .ok (some span) => Head.records start span
  | _ => []

/-- The byte offset, before `stop`, of the `}` that belongs to a `{` just before `start`. Braces
are single bytes, so both offsets may lie inside a character. -/
def matchingBrace? (source : Text) (start stop : Nat) : Except OffsetError (Option Nat) :=
  if start ≤ stop ∧ stop ≤ Text.utf8Size source then
    let bytes := ((Text.toBytes source).take stop).drop start
    .ok (closingFrom? (fun _ => 1) 0x7B 0x7D 0 start bytes)
  else
    .error .outOfRange

end Inlay.Markup
