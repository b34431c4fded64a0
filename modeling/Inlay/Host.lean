import Inlay.Document
import Inlay.Log.Record

namespace Inlay

class Host (host : Type) (location : outParam Type) where
  /-- The blocks of a dialect that wait to be compiled, in order. -/
  pending : host → Dialect → List (PendingBlock location)
  /-- Take a style sheet. -/
  inject : host → Text → host
  /-- Put a forest in the place of a block. -/
  replace : host → location → Forest → host
  /-- What is noted when the block at a location is replaced. -/
  replaceRecords : host → location → List Log.Record

instance : Host Document Nat where
  pending := Document.pending
  inject := Document.inject
  replace := Document.replace
  replaceRecords := Document.replaceRecords

end Inlay
