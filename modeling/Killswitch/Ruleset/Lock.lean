import Killswitch.Policy.Basic
import Killswitch.Ruleset.Basic

/-!
# The ruleset of a lock

Everything is blocked, or passed where the policy says so, by the first two rules. The rules after
them pass what is let through; those for the destinations come last.

**Contents.**
* `loopback`: the interface that is always exempt;
* `privateNetworkRules`, `icmpRules`: the traffic that may be let through as a whole;
* `destinationRule`: the rule for one destination;
* `Ruleset.ofPolicy`: the ruleset of a policy.
-/

namespace Killswitch
namespace Ruleset

/-- The interface that is always exempt. -/
def loopback : String :=
  "lo0"

/-- The private networks of each family, with the groups heard there. -/
def privateNetworks : List (List String × List String) := [
  (["169.254/16", "192.168/16", "172.16/12", "10/8"], ["224/24", "255.255.255.255/32"]),
  (["fe80::/10", "fc00::/7"], ["ff02::/16", "ff12::/16"])]

/-- The rule that passes what stays within a network. -/
def withinRule (network : String) : Rule :=
  ⟨.pass, none, true, .within network⟩

/-- The rule that passes what goes from private networks to local groups. -/
def groupRule (networks groups : List String) : Rule :=
  ⟨.pass, some .outgoing, true, .between networks groups⟩

/-- The rules that pass the traffic of private networks. -/
def privateNetworkRules : List Rule :=
  privateNetworks.flatMap (fun (networks, groups) =>
    networks.map withinRule ++ [groupRule networks groups])

/-- The rules that pass the control protocols. -/
def icmpRules : List Rule :=
  [⟨.pass, none, true, .icmp⟩]

/-- The rule that passes what goes to a destination. -/
def destinationRule (destination : String) : Rule :=
  ⟨.pass, some .outgoing, true, .toDestination (.ofDestination destination) destination⟩

/-- The rule for all packets of a direction. -/
def defaultRule (direction : Direction) (allowed : Bool) : Rule :=
  ⟨if allowed then .pass else .block, some direction, false, .all⟩

/-- The rules of a policy's lock. -/
def rulesOf (p : Policy) : List Rule :=
  [defaultRule .incoming p.allow.incoming, defaultRule .outgoing p.allow.outgoing]
    ++ (if p.allow.privateNetwork then privateNetworkRules else [])
    ++ (if p.allow.icmp then icmpRules else [])
    ++ p.destinations.map destinationRule

/-- The ruleset of a policy's lock. -/
def ofPolicy (p : Policy) : Ruleset :=
  [.blockPolicy, .skip (loopback :: p.interfaces), .scrub] ++ (rulesOf p).map .rule

end Ruleset

/-- The text of the ruleset of a policy's lock. -/
def Policy.ruleset (p : Policy) : String :=
  (Ruleset.ofPolicy p).toString

end Killswitch
