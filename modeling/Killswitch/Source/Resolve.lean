import Killswitch.Address.Literal
import Killswitch.Distinct
import Killswitch.Endpoint.File
import Killswitch.Source.Basic

/-!
# The addresses of sources

Every source is resolved, or there is no list at all: a lock that lacks a destination would cut off
what it is meant to let through.

**Contents.**
* `Source.addressesOf`: the addresses of a host name, their zones cut off;
* `Source.items`: what a source consists of, before any name is looked up;
* `Source.extract`: the addresses of a list of sources, each one once.
-/

namespace Killswitch
namespace Source

/-- The addresses that the resolver has for a name. -/
def addressesOf (name : String) : Action (List String) := do
  let fails {α : Type} (reason : String) : Action α :=
    throw (.diagnostic (.of .destination ("cannot resolve " ++ name ++ ": " ++ reason)))
  match ← Action.resolveName name with
  | .error (.system e) => fails e.message
  | .error (.encoding text) => fails text
  | .error f => throw (.ofFault f)
  | .ok answer =>
      let addresses := Distinct.of (answer.map (Text.before '%'))
      if addresses.isEmpty then fails "no addresses returned"
      Action.remark .debug Endpoint.origin
        ("Resolved " ++ name ++ " to " ++ Text.joinWith ", " addresses)
      return addresses

/-- The addresses that an item stands for, itself if it is one. -/
def addressesOfItem (item : String) : Action (List String) :=
  if Address.isLiteral item then return [item] else addressesOf item

/-- The items of a source: its value, or the hosts that its file names. -/
def items (s : Source) : Action (List String) :=
  match s.kind with
  | .file => Endpoint.ofPath s.value
  | _ => return [s.value]

/-- The addresses of some sources in order, each one once. -/
def extract (sources : List Source) : Action (List String) :=
  sources.foldlM (fun found s => do
    (← s.items).foldlM (fun found item => do
      return Distinct.extend found (← addressesOfItem item)) found) []

end Source
end Killswitch
