import Inlay.Host

namespace Inlay

inductive HostCall where
  | inject (css : Text)
  | replace (index : Nat) (forest : Forest)
  deriving DecidableEq, Repr

structure BlockList where
  blocks : List (Dialect × Text)
  calls : List HostCall := []
  deriving DecidableEq, Repr

namespace BlockList

def isReplaced (list : BlockList) (index : Nat) : Bool :=
  list.calls.any fun call =>
    match call with
    | .replace replaced _ => replaced == index
    | .inject _ => false

def pending (list : BlockList) (dialect : Dialect) : List (PendingBlock Nat) :=
  list.blocks.zipIdx.filterMap fun ((blockDialect, source), index) =>
    if blockDialect = dialect ∧ ¬ list.isReplaced index then some ⟨dialect, source, index⟩
    else none

def call (list : BlockList) (call : HostCall) : BlockList :=
  { list with calls := list.calls ++ [call] }

instance : Host BlockList Nat where
  pending := BlockList.pending
  inject list css := list.call (.inject css)
  replace list index forest := list.call (.replace index forest)
  replaceRecords _ _ := []

end BlockList

end Inlay
