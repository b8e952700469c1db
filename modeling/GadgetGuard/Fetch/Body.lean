import GadgetGuard.Fetch.Error
import GadgetGuard.Text.Utf8
/-!
# Bodies that arrive in chunks

A body is read chunk by chunk and given up as soon as it is too large, so that no more than
the limit is ever kept.
-/

namespace GadgetGuard

open GadgetGuard.Text

/-- The chunks of a body as they arrive, and what goes wrong after the last one, if anything
does. -/
structure BodyStream where
  chunks : List Bytes
  fault : Option String
  deriving DecidableEq, Repr

namespace BodyStream

/-- Adds a chunk to what was received, unless both together are too large. -/
def accept (limit : Nat) (received chunk : Bytes) : Except FetchError Bytes :=
  let size := received.length + chunk.length
  if limit < size then .error (.bodyTooLarge size limit) else .ok (received ++ chunk)

def read (stream : BodyStream) (limit : Nat) : Except FetchError Bytes := do
  let received ← stream.chunks.foldlM (accept limit) []
  match stream.fault with
  | none => return received
  | some detail => throw (.bodyCutShort detail)

end BodyStream

end GadgetGuard
