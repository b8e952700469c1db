import GadgetGuard.Text.Ascii
import GadgetGuard.Text.Cut
/-!
# Locked domains

With locked domains every gadget is shown on a host of its own, and all these hosts share
a suffix. The proxy answers on none of them: what it fetches would run there with the rights
of the gadget.
-/

namespace GadgetGuard

open GadgetGuard.Text

structure LockedDomain where
  enabled : Bool
  suffix : String
  deriving DecidableEq, Repr

namespace LockedDomain

def disabled : LockedDomain := ⟨false, ""⟩

/-- A host without its port. An address in brackets ends at its bracket. -/
def withoutPort (host : List Char) : List Char :=
  match host with
  | '[' :: _ =>
    match cut ']' host with
    | (address, some _) => address ++ [']']
    | (_, none) => host
  | _ =>
    match cutLast ':' host with
    | some (name, _) => name
    | none => host

/-- Whether the proxy may answer a request for a host. -/
def isSafe (domain : LockedDomain) (host : Option String) : Bool :=
  if !domain.enabled then true
  else
    match host with
    | none => false
    | some host =>
      let name := (withoutPort host.toList).map Char.toLower
      domain.suffix.isEmpty || !(lower domain.suffix).toList.isSuffixOf name

end LockedDomain

end GadgetGuard
