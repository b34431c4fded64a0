import Inlay.Style.Compile

namespace Inlay.Style

structure Declaration where
  property : Text
  value : Text
  deriving DecidableEq, Repr, Inhabited

def Declaration.toCss (declaration : Declaration) : Text :=
  declaration.property ++ ": ".toList ++ declaration.value ++ "; ".toList

structure Block where
  selector : Text
  declarations : List Declaration
  deriving DecidableEq, Repr, Inhabited

namespace Block

def toCss (block : Block) : Text :=
  block.selector ++ " \x7b ".toList ++ block.declarations.flatMap Declaration.toCss ++
    "\x7d\n".toList

def declare (block : Block) (property value : Text) : Block :=
  { block with declarations := block.declarations ++ [⟨property, value⟩] }

end Block

/-- The block that a line opens; a line without a selector opens none. -/
def startBlock (selector : Text) : Option Block :=
  if selector.isEmpty then none else some ⟨selector, []⟩

/-- The blocks of the lines that follow while `current` is being filled. -/
def blocksFrom (current : Option Block) : List Line → List Block
  | [] => current.toList
  | .opening selector :: rest => current.toList ++ blocksFrom (startBlock selector) rest
  | .closing :: rest => current.toList ++ blocksFrom none rest
  | .declaration property value :: rest =>
      blocksFrom (current.map (·.declare property value)) rest
  | .ignored :: rest => blocksFrom current rest

def blocks (source : Text) : List Block :=
  blocksFrom none (readLines source)

end Inlay.Style
