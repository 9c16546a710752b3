import Killswitch.Failure
import Killswitch.Text.Blank
import Killswitch.Text.Lines

/-!
# Routing tables

A routing table is a text with sections. The first line of a section names its columns; each line
after it is a row, whose fields stand under those names.

**Contents.**
* `Route`: a row, with what makes it usable;
* `Columns`: the names of a section;
* `Route.ofTable`: the rows of all sections, in order.
-/

namespace Killswitch

/-- A row of a routing table. -/
structure Route where
  destination : String
  gateway : String
  flags : String
  interface : String
  deriving DecidableEq, Repr

namespace Route

/-- Whether a route leads to one half of all addresses. Two of them stand in for the default route. -/
def isSplitDefault (r : Route) : Bool :=
  r.destination == "0/1" || r.destination == "128.0/1"

/-- Whether a route is taken where no other one fits. -/
def isDefault (r : Route) : Bool :=
  r.destination == "default"

/-- Whether a route is up, has a gateway, was set by hand, and does not loop back. -/
def isUsable (r : Route) : Bool :=
  !"lo".toList.isPrefixOf r.interface.toList
    && "UGS".toList.all (fun flag => r.flags.toList.contains flag)

/-! ## Columns -/

abbrev Columns := List String

/-- The place of a column, the last one of its name. -/
def place? (columns : Columns) (name : String) : Option Nat :=
  match columns with
  | [] => none
  | column :: rest =>
      match place? rest name with
      | some n => some (n + 1)
      | none => if column = name then some 0 else none

/-- The field of a row under a name. -/
def field (columns : Columns) (fields : List String) (name : String) : Except Failure String :=
  match place? columns name with
  | none => .error (.missingColumn name)
  | some n =>
      match fields[n]? with
      | some value => .ok value
      | none => .error .shortRow

/-- The route that a row describes. -/
def ofFields (columns : Columns) (fields : List String) : Except Failure Route := do
  let destination ← field columns fields "Destination"
  let gateway ← field columns fields "Gateway"
  let flags ← field columns fields "Flags"
  let interface ← field columns fields "Netif"
  return ⟨destination, gateway, flags, interface⟩

/-! ## Tables -/

/-- The routes of some lines. Rows without a field for the interface are left out, and all rows of a
section without such a column. -/
def ofLines (columns : Columns) : List (List String) → Except Failure (List Route)
  | [] => .ok []
  | [] :: rest => ofLines columns rest
  | (first :: more) :: rest =>
      if first = "Destination" then ofLines (first :: more) rest
      else
        match place? columns "Netif" with
        | none => ofLines columns rest
        | some n =>
            if more.length < n then ofLines columns rest
            else do
              let route ← ofFields columns (first :: more)
              return route :: (← ofLines columns rest)

/-- The routes of a table, in order. -/
def ofTable (text : String) : Except Failure (List Route) :=
  ofLines [] ((Text.lines text.toList).map (fun line => (Text.words line).map String.ofList))

end Route
end Killswitch
