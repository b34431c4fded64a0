import Inlay.Dialect
import Inlay.Forest
import Inlay.Log.Record

namespace Inlay

/-- A block of a document: the whole element as it is spelled, the dialect source inside it, and
the forest that stands in its place once there is one. -/
structure Slot where
  dialect : Dialect
  raw : Text
  source : Text
  replacement : Option Forest := none
  deriving DecidableEq, Repr, Inhabited

namespace Slot

def isPending (slot : Slot) : Bool :=
  slot.replacement.isNone

def replace (forest : Forest) (slot : Slot) : Slot :=
  { slot with replacement := some forest }

end Slot

inductive Segment where
  | plain (content : Text)
  | block (slot : Slot)
  deriving DecidableEq, Repr, Inhabited

namespace Segment

def slot? : Segment → Option Slot
  | plain _ => none
  | block slot => some slot

def isBlock (segment : Segment) : Bool :=
  segment.slot?.isSome

def mapSlot (change : Slot → Slot) : Segment → Segment
  | plain content => plain content
  | block slot => block (change slot)

end Segment

structure Document where
  segments : List Segment := []
  stylesheets : List Text := []
  deriving DecidableEq, Repr, Inhabited

structure PendingBlock (location : Type) where
  dialect : Dialect
  source : Text
  location : location
  deriving DecidableEq, Repr

namespace Document

def empty : Document := {}

def slots (document : Document) : List Slot :=
  document.segments.filterMap Segment.slot?

def blockCount (document : Document) : Nat :=
  document.slots.length

def pendingFrom (dialect : Dialect) (index : Nat) : List Segment → List (PendingBlock Nat)
  | [] => []
  | .plain _ :: rest => pendingFrom dialect (index + 1) rest
  | .block slot :: rest =>
      if slot.dialect = dialect ∧ slot.isPending then
        ⟨dialect, slot.source, index⟩ :: pendingFrom dialect (index + 1) rest
      else
        pendingFrom dialect (index + 1) rest

/-- The blocks of a dialect that have not been replaced, in document order. The location of a
block is the index of its segment. -/
def pending (document : Document) (dialect : Dialect) : List (PendingBlock Nat) :=
  pendingFrom dialect 0 document.segments

def inject (document : Document) (css : Text) : Document :=
  { document with stylesheets := document.stylesheets ++ [css] }

/-- Put a forest in the place of the block at an index. Where there is no block nothing changes. -/
def replace (document : Document) (index : Nat) (forest : Forest) : Document :=
  { document with
    segments := document.segments.modify index (Segment.mapSlot (Slot.replace forest)) }

def hasBlockAt (document : Document) (index : Nat) : Bool :=
  document.segments[index]?.any Segment.isBlock

def replaceRecords (document : Document) (index : Nat) : List Log.Record :=
  if document.hasBlockAt index then [] else [.replacementDropped index]

def forests (document : Document) : List Forest :=
  document.slots.filterMap Slot.replacement

def mapForests (change : Forest → Forest) (document : Document) : Document :=
  { document with
    segments := document.segments.map (Segment.mapSlot fun slot =>
      { slot with replacement := slot.replacement.map change }) }

@[simp] theorem stylesheets_inject (document : Document) (css : Text) :
    (document.inject css).stylesheets = document.stylesheets ++ [css] := rfl

@[simp] theorem segments_inject (document : Document) (css : Text) :
    (document.inject css).segments = document.segments := rfl

@[simp] theorem stylesheets_mapForests (change : Forest → Forest) (document : Document) :
    (document.mapForests change).stylesheets = document.stylesheets := rfl

end Document

end Inlay
