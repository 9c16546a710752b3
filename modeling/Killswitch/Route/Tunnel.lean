import Killswitch.Action
import Killswitch.Address.V4
import Killswitch.Route.Table

/-!
# The tunnel in a routing table

A client that has a tunnel up routes both halves of all addresses through it, and keeps one route to
its server through the gateway that was the default before.

**Contents.**
* `hostAddress`: the address of a route to a single host;
* `tunnelInterface` and `server`: what the usable routes say about the tunnel;
* `Tunnel.ofTable`, `Tunnel.current`: the tunnel in a table, and in the host's own.
-/

namespace Killswitch

/-- The interface of a tunnel and the address of its server, empty where they are not known. -/
structure Tunnel where
  interface : String
  server : String
  deriving DecidableEq, Repr

namespace Route

/-- The address of a route to a single host, or nothing: networks have a width other than thirty-two. -/
def hostAddress (destination : String) : String :=
  match Text.cutAt '/' destination.toList with
  | (address, width) =>
      if width.getD [] = [] ∨ width.getD [] = "32".toList then
        match Address.V4.ofChars? address with
        | some v => String.ofList v.toChars
        | none => ""
      else ""

/-- Whether an interface is a tunnel by its name. -/
def isTunnel (interface : String) : Bool :=
  "utun".toList.isPrefixOf interface.toList || "tun".toList.isPrefixOf interface.toList

/-- The first route to one half of all addresses. -/
def splitDefault? (routes : List Route) : Option Route :=
  routes.find? isSplitDefault

def tunnelInterface (routes : List Route) : String :=
  match splitDefault? routes with
  | some r => if isTunnel r.interface then r.interface else ""
  | none => ""

/-- The address of a host that is reached the way of the default route. -/
def serverAddress? (fallback r : Route) : Option String :=
  if r.isDefault || r.isSplitDefault then none
  else if r.gateway = fallback.gateway ∧ r.interface = fallback.interface then
    let address := hostAddress r.destination
    if address = "" then none else some address
  else none

def server (routes : List Route) : String :=
  match routes.find? isDefault with
  | none => ""
  | some fallback => (routes.findSome? (serverAddress? fallback)).getD ""

end Route

namespace Tunnel

def origin : String :=
  "netlock.routing"

/-- The tunnel that the usable routes of a table show. -/
def ofRoutes (routes : List Route) : Tunnel :=
  ⟨Route.tunnelInterface routes, Route.server routes⟩

/-- The tunnel that a routing table shows. -/
def ofTable (text : String) : Action Tunnel := do
  let usable := (← Action.ofOutcome (Route.ofTable text)).filter Route.isUsable
  match Route.splitDefault? usable with
  | some r =>
      if !Route.isTunnel r.interface then
        Action.remark .warning origin
          ("Split default route via " ++ r.interface ++ " is not a tunnel interface")
  | none => pure ()
  let tunnel := ofRoutes usable
  Action.remark .debug origin
    ("Routing info: interface=" ++ Text.quote tunnel.interface
      ++ " destination=" ++ Text.quote tunnel.server)
  return tunnel

/-- Fails since the routing table is not known. -/
def unknown {α : Type} (text : String) : Action α :=
  throw (.diagnostic ⟨.destination, "routing", text⟩)

/-- The tunnel that the host's routing table shows. -/
def current : Action Tunnel := do
  match ← Action.listRoutes with
  | .timedOut _ =>
      unknown ("cannot read routing table: Command '["
        ++ Text.joinWith ", " (Action.routesCommand.map Text.quote) ++ "]' timed out after "
        ++ toString Action.routesLimit ++ " seconds")
  | .fault (.system e) => unknown ("cannot read routing table: " ++ e.message)
  | .fault f => throw (.ofFault f)
  | .ended code output errors =>
      if code ≠ 0 then
        unknown ("netstat exited with status " ++ toString code ++ ": "
          ++ String.ofList (Text.trim errors.toList))
      else ofTable output

end Tunnel
end Killswitch
