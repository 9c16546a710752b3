import Killswitch.Policy.Basic
import Killswitch.Route.Tunnel
import Killswitch.Source.Resolve

/-!
# From options to a policy

All sources are resolved before anything else is looked at, so that a destination that cannot be
resolved leaves no policy behind.

**Contents.**
* `warnUnknown`: warnings for the interfaces that the host does not have;
* `Policy.withTunnel`: interfaces and destinations with those of a tunnel;
* `Policy.build`: the policy that options ask for.
-/

namespace Killswitch
namespace Policy

def origin : String :=
  "netlock.policy.builder"

/-- Warns of the interfaces that the host does not have, and gives their names. They stay in the policy,
since a tunnel may come up later. -/
def warnUnknown (interfaces : List String) : Action (List String) := do
  let cannotList (reason : String) : Action (List String) := do
    Action.remark .debug origin ("Cannot list network interfaces: " ++ reason)
    return []
  match (← Action.host).interfaces with
  | .error (.system e) => cannotList e.message
  | .error .listing => cannotList ""
  | .error f => throw (.ofFault f)
  | .ok known =>
      let unknown := interfaces.filter (fun name => !known.contains name)
      for name in unknown do
        Action.remark .warning origin ("Interface " ++ name ++ " does not exist on this host")
      return unknown

/-- A list with a name at its end, unless it is empty or there. -/
def addName (names : List String) (name : String) : List String :=
  if name = "" then names else Distinct.add names name

/-- Interfaces and destinations with those of the tunnel. -/
def withTunnel (interfaces destinations : List String) : Action (List String × List String) := do
  let tunnel ← Tunnel.current
  if tunnel.interface = "" ∧ tunnel.server = "" then
    Action.remark .warning origin "No VPN tunnel found in the routing table"
  return (addName interfaces tunnel.interface, addName destinations tunnel.server)

def build (o : Options) : Action Policy := do
  let destinations ← Source.extract o.sources
  let interfaces := Distinct.of o.interfaces
  let (interfaces, destinations) ←
    if o.useRouting then withTunnel interfaces destinations
    else pure (interfaces, destinations)
  let _ ← warnUnknown interfaces
  return Policy.of o.allow interfaces destinations o.baseline

end Policy
end Killswitch
