import Killswitch.Proofs.Address.Spelling
import Killswitch.Proofs.Route.Reading

/-!
# The routes that show the tunnel

Of all routes in a table three are looked at: the first one to a half of all addresses, the first default
route, and the first route to a single host that goes the same way as that default route. They are first among
the routes that count, whose interface does not loop back and whose flags say that they are up, lead through a
gateway and were set by hand.

**Order.** Each search stays within one of three kinds of routes. So only the order within a kind matters, and
neither that between the kinds nor any route that does not count.

**Results.**
* `counts_iff`, `isHalf_iff`, `isFallback_iff`, `isTunnelName_iff`: the tests of the searches;
* `hostAddress_of_isHost`, `hostAddress_ne_iff`: the destinations that are single hosts;
* `find?_eq_some_iff_isFirst`, `server_eq_iff`: the searches by what they find;
* `ofRoutes_shows`, `ofRoutes_eq_of_sameKinds`: the tunnel that routes show, and the routes that show the same;
* `counting_insert`: rows that do not count;
* `Tunnel.ofTable_shows`: the tunnel in a table.
-/

namespace Killswitch

open Killswitch.Action
open Address (V4)

namespace Route

/-! ## Kinds of routes -/

/-- A route counts: it does not loop back, is up, has a gateway, and was set by hand. -/
def Counts (r : Route) : Prop :=
  ¬ "lo".toList <+: r.interface.toList
    ∧ 'U' ∈ r.flags.toList ∧ 'G' ∈ r.flags.toList ∧ 'S' ∈ r.flags.toList

instance : DecidablePred Counts := fun _ =>
  inferInstanceAs (Decidable (_ ∧ _ ∧ _ ∧ _))

/-- A route leads to one half of all addresses. -/
def IsHalf (r : Route) : Prop :=
  r.destination = "0/1" ∨ r.destination = "128.0/1"

instance : DecidablePred IsHalf := fun _ =>
  inferInstanceAs (Decidable (_ ∨ _))

/-- A route is a default route. -/
def IsFallback (r : Route) : Prop :=
  r.destination = "default"

instance : DecidablePred IsFallback := fun _ =>
  inferInstanceAs (Decidable (_ = _))

/-- A route is neither. -/
def IsOther (r : Route) : Prop :=
  ¬ r.IsHalf ∧ ¬ r.IsFallback

instance : DecidablePred IsOther := fun _ =>
  inferInstanceAs (Decidable (_ ∧ _))

/-- An interface has the name of a tunnel. -/
def IsTunnelName (name : String) : Prop :=
  "tun".toList <+: name.toList ∨ "utun".toList <+: name.toList

/-- A destination is a single host: its address, which a slash may follow, and the full width the slash. -/
def IsHost (destination : String) (v : V4) : Prop :=
  ∃ width ∈ ["", "/", "/32"], destination.toList = v.toChars ++ width.toList

/-- A route that is neither leads to a single host, and the same way as a default route. -/
structure IsServer (fallback r : Route) (v : V4) : Prop where
  other : r.IsOther
  gateway : r.gateway = fallback.gateway
  interface : r.interface = fallback.interface
  host : IsHost r.destination v

section Tests

variable {r fallback : Route} {name destination : String} {v : V4}

theorem counts_iff :
    r.Counts ↔ r.isUsable = true := by
  rw [Counts, isUsable, Bool.and_eq_true, Bool.not_eq_true', ← Bool.not_eq_true, List.isPrefixOf_iff_prefix]
  simp

theorem isHalf_iff :
    r.IsHalf ↔ r.isSplitDefault = true := by
  simp [IsHalf, isSplitDefault]

theorem isFallback_iff :
    r.IsFallback ↔ r.isDefault = true := by
  simp [IsFallback, isDefault]

theorem isTunnelName_iff :
    IsTunnelName name ↔ isTunnel name = true := by
  rw [IsTunnelName, isTunnel, Bool.or_eq_true, List.isPrefixOf_iff_prefix, List.isPrefixOf_iff_prefix]
  exact Or.comm

theorem ne_empty_of_isTunnelName
    (h : IsTunnelName name) :
    name ≠ "" := by
  rintro rfl
  exact absurd h (by unfold IsTunnelName; decide)

theorem ofList_toChars_ne_empty :
    String.ofList v.toChars ≠ "" := by
  intro h
  have hnil : v.toChars = [] := by
    simpa using congrArg String.toList h
  exact v.toChars_ne_nil hnil

/-- The destination of a single host is cut into its address and no other width than the full one. -/
theorem cutAt_of_isHost
    (h : IsHost destination v) :
    ∃ width, Text.cutAt '/' destination.toList = (v.toChars, width)
      ∧ (width.getD [] = [] ∨ width.getD [] = "32".toList) := by
  have hslash : '/' ∉ v.toChars := V4.not_mem_toChars (by decide) (by decide)
  obtain ⟨width, hwidth, hdestination⟩ := h
  simp only [List.mem_cons, List.not_mem_nil, or_false] at hwidth
  rw [hdestination]
  rcases hwidth with rfl | rfl | rfl
  · refine ⟨none, ?_, .inl rfl⟩
    rw [String.toList_empty, List.append_nil, Text.cutAt_of_not_mem hslash]
  · exact ⟨some [], Text.cutAt_append hslash [], .inl rfl⟩
  · exact ⟨some "32".toList, Text.cutAt_append hslash "32".toList, .inr rfl⟩

/-- The address of a single host is the part of the destination in front of the slash. -/
theorem hostAddress_of_isHost
    (h : IsHost destination v) :
    hostAddress destination = String.ofList v.toChars := by
  obtain ⟨width, hcut, hwidth⟩ := cutAt_of_isHost h
  have hread : V4.ofChars? v.toChars = some v := V4.ofChars?_eq_some_iff.2 rfl
  unfold hostAddress
  rw [hcut]
  dsimp only
  rw [if_pos hwidth, hread]

/-- All other destinations have no such address. -/
theorem exists_isHost_of_hostAddress
    (h : hostAddress destination ≠ "") :
    ∃ v, IsHost destination v := by
  unfold hostAddress at h
  split at h
  rename_i address width hcut
  split at h
  · rename_i hwidth
    split at h
    · rename_i v hv
      rw [Address.V4.ofChars?_eq_some_iff] at hv
      refine ⟨v, ?_⟩
      cases width with
      | none =>
          refine ⟨"", by simp, ?_⟩
          rw [← hv, ← Text.eq_of_cutAt_none hcut, String.toList_empty, List.append_nil]
      | some width =>
          rw [IsHost, Text.eq_of_cutAt hcut, hv]
          rcases hwidth with hempty | hfull
          · obtain rfl : width = [] := hempty
            exact ⟨"/", by simp, rfl⟩
          · obtain rfl : width = "32".toList := hfull
            exact ⟨"/32", by simp, rfl⟩
    · contradiction
  · contradiction

theorem hostAddress_ne_iff :
    hostAddress destination ≠ "" ↔ ∃ v, IsHost destination v := by
  refine ⟨exists_isHost_of_hostAddress, ?_⟩
  rintro ⟨v, hv⟩
  rw [hostAddress_of_isHost hv]
  exact ofList_toChars_ne_empty

theorem serverAddress?_eq_some_iff
    {address : String} :
    serverAddress? fallback r = some address
      ↔ ∃ v, IsServer fallback r v ∧ address = String.ofList v.toChars := by
  have hkind : (r.isDefault || r.isSplitDefault) = true ↔ ¬ r.IsOther := by
    rw [Bool.or_eq_true, ← isFallback_iff, ← isHalf_iff, IsOther, ← not_or, Decidable.not_not, or_comm]
  unfold serverAddress?
  constructor
  · intro h
    split at h
    · contradiction
    · rename_i hother
      rw [hkind, Decidable.not_not] at hother
      split at h
      · rename_i hway
        dsimp only at h
        split at h
        · contradiction
        · rename_i hhost
          obtain ⟨v, hv⟩ := exists_isHost_of_hostAddress hhost
          obtain rfl := Option.some.inj h
          exact ⟨v, ⟨hother, hway.1, hway.2, hv⟩, hostAddress_of_isHost hv⟩
      · contradiction
  · rintro ⟨v, hserver, rfl⟩
    rw [if_neg (fun h => hkind.1 h hserver.other), if_pos ⟨hserver.gateway, hserver.interface⟩]
    dsimp only
    rw [hostAddress_of_isHost hserver.host, if_neg ofList_toChars_ne_empty]

theorem serverAddress?_eq_none_iff :
    serverAddress? fallback r = none ↔ ¬ ∃ v, IsServer fallback r v := by
  rw [← Option.not_isSome_iff_eq_none, Option.isSome_iff_exists]
  simp only [serverAddress?_eq_some_iff]
  refine not_congr ⟨?_, ?_⟩
  · rintro ⟨_, v, hserver, -⟩
    exact ⟨v, hserver⟩
  · rintro ⟨v, hserver⟩
    exact ⟨_, v, hserver, rfl⟩

end Tests

/-! ## Searches -/

/-- A route is the first one of its kind. -/
def IsFirst (kind : Route → Prop) (routes : List Route) (r : Route) : Prop :=
  ∃ before after, routes = before ++ r :: after ∧ kind r ∧ ∀ s ∈ before, ¬ kind s

/-- What routes say about the tunnel: the interface of the first route to a half of all addresses, if it has
the name of a tunnel, and the address of the first single host that is reached the same way as the first
default route leads. -/
structure Shows (routes : List Route) (tunnel : Tunnel) : Prop where
  interface_ne : tunnel.interface ≠ "" ↔ ∃ r, IsFirst IsHalf routes r ∧ IsTunnelName r.interface
  interface : ∀ r, IsFirst IsHalf routes r → IsTunnelName r.interface → tunnel.interface = r.interface
  server_ne : tunnel.server ≠ "" ↔
    ∃ fallback, IsFirst IsFallback routes fallback ∧ ∃ r ∈ routes, ∃ v, IsServer fallback r v
  server : ∀ fallback r v, IsFirst IsFallback routes fallback →
    IsFirst (fun s => ∃ w, IsServer fallback s w) routes r → IsHost r.destination v →
    tunnel.server = String.ofList v.toChars

section Searches

variable {routes : List Route} {r : Route}

theorem find?_eq_some_iff_isFirst
    {test : Route → Bool} {kind : Route → Prop}
    (hkind : ∀ r, kind r ↔ test r = true) :
    routes.find? test = some r ↔ IsFirst kind routes r := by
  rw [List.find?_eq_some_iff_append, IsFirst, ← hkind]
  simp only [hkind, Bool.not_eq_true', Bool.not_eq_true]
  constructor
  · rintro ⟨hr, before, after, hroutes, hbefore⟩
    exact ⟨before, after, hroutes, hr, hbefore⟩
  · rintro ⟨before, after, hroutes, hr, hbefore⟩
    exact ⟨hr, before, after, hroutes, hbefore⟩

/-- Where there are routes of a kind, there is a first one. -/
theorem exists_isFirst
    {kind : Route → Prop}
    (hmem : r ∈ routes) (hr : kind r) :
    ∃ first, IsFirst kind routes first := by
  induction routes with
  | nil =>
      contradiction
  | cons s routes ih =>
      by_cases hs : kind s
      · exact ⟨s, [], routes, rfl, hs, by simp⟩
      · have hlater : r ∈ routes := (List.mem_cons.1 hmem).resolve_left (fun heq => hs (heq ▸ hr))
        obtain ⟨first, before, after, rfl, hfirst, hbefore⟩ := ih hlater
        exact ⟨first, s :: before, after, rfl, hfirst, List.forall_mem_cons.2 ⟨hs, hbefore⟩⟩

theorem IsFirst.mem
    {kind : Route → Prop} (h : IsFirst kind routes r) :
    r ∈ routes := by
  obtain ⟨before, after, rfl, -⟩ := h
  simp

theorem IsFirst.kind
    {kind : Route → Prop} (h : IsFirst kind routes r) :
    kind r := by
  obtain ⟨-, -, -, hr, -⟩ := h
  exact hr

/-- The interface that is shown is the one of the first route to a half of all addresses. -/
theorem tunnelInterface_eq_iff
    {name : String} (hname : name ≠ "") :
    tunnelInterface routes = name
      ↔ ∃ r, IsFirst IsHalf routes r ∧ IsTunnelName r.interface ∧ r.interface = name := by
  simp only [← find?_eq_some_iff_isFirst (fun _ => isHalf_iff), isTunnelName_iff]
  unfold tunnelInterface splitDefault?
  cases routes.find? isSplitDefault with
  | none =>
      simpa using hname.symm
  | some r =>
      by_cases htunnel : isTunnel r.interface = true
      · simp [htunnel]
      · simpa [htunnel] using hname.symm

/-- The address that is shown is the one of the first single host behind the first default route. -/
theorem server_eq_iff
    {address : String} (haddress : address ≠ "") :
    server routes = address
      ↔ ∃ fallback r v, IsFirst IsFallback routes fallback
          ∧ IsFirst (fun s => ∃ w, IsServer fallback s w) routes r
          ∧ IsServer fallback r v ∧ address = String.ofList v.toChars := by
  have hfound : ∀ fallback, (routes.findSome? (serverAddress? fallback)).getD "" = address
      ↔ ∃ r v, IsFirst (fun s => ∃ w, IsServer fallback s w) routes r
          ∧ IsServer fallback r v ∧ address = String.ofList v.toChars := by
    intro fallback
    have hsome : (routes.findSome? (serverAddress? fallback)).getD "" = address
        ↔ routes.findSome? (serverAddress? fallback) = some address := by
      cases routes.findSome? (serverAddress? fallback) with
      | none =>
          simpa using haddress.symm
      | some found =>
          simp
    rw [hsome, List.findSome?_eq_some_iff]
    simp only [serverAddress?_eq_some_iff, serverAddress?_eq_none_iff]
    constructor
    · rintro ⟨before, r, after, hroutes, ⟨v, hserver, haddress⟩, hbefore⟩
      exact ⟨r, v, ⟨before, after, hroutes, ⟨v, hserver⟩, hbefore⟩, hserver, haddress⟩
    · rintro ⟨r, v, ⟨before, after, hroutes, -, hbefore⟩, hserver, haddress⟩
      exact ⟨before, r, after, hroutes, ⟨v, hserver, haddress⟩, hbefore⟩
  simp only [← find?_eq_some_iff_isFirst (fun _ => isFallback_iff)]
  unfold server
  cases routes.find? isDefault with
  | none =>
      simpa using haddress.symm
  | some fallback =>
      simp [hfound fallback]

/-- Routes show the tunnel that is found in them. -/
theorem ofRoutes_shows (routes : List Route) :
    Shows routes (Tunnel.ofRoutes routes) where
  interface_ne := by
    constructor
    · intro hne
      obtain ⟨r, hfirst, htunnel, -⟩ := (tunnelInterface_eq_iff hne).1 rfl
      exact ⟨r, hfirst, htunnel⟩
    · rintro ⟨r, hfirst, htunnel⟩
      have hne := ne_empty_of_isTunnelName htunnel
      have hshown : tunnelInterface routes = r.interface :=
        (tunnelInterface_eq_iff hne).2 ⟨r, hfirst, htunnel, rfl⟩
      exact fun hempty => hne (hshown ▸ hempty)
  interface := by
    intro r hfirst htunnel
    exact (tunnelInterface_eq_iff (ne_empty_of_isTunnelName htunnel)).2 ⟨r, hfirst, htunnel, rfl⟩
  server_ne := by
    constructor
    · intro hne
      obtain ⟨fallback, r, v, hfallback, hfirst, hserver, -⟩ := (server_eq_iff hne).1 rfl
      exact ⟨fallback, hfallback, r, hfirst.mem, v, hserver⟩
    · rintro ⟨fallback, hfallback, r, hr, v, hserver⟩
      obtain ⟨first, hfirst⟩ : ∃ first, IsFirst (fun s => ∃ w, IsServer fallback s w) routes first :=
        exists_isFirst hr ⟨v, hserver⟩
      obtain ⟨w, hw⟩ := hfirst.kind
      have hshown : server routes = String.ofList w.toChars :=
        (server_eq_iff ofList_toChars_ne_empty).2 ⟨fallback, first, w, hfallback, hfirst, hw, rfl⟩
      exact fun hempty => ofList_toChars_ne_empty (hshown.symm.trans hempty)
  server := by
    intro fallback r v hfallback hfirst hhost
    obtain ⟨w, hw⟩ := hfirst.kind
    exact (server_eq_iff ofList_toChars_ne_empty).2
      ⟨fallback, r, v, hfallback, hfirst, { hw with host := hhost }, rfl⟩

end Searches

/-! ## Routes of the same kinds -/

/-- Two tables have the same routes of each kind, in the same order within the kind. -/
structure SameKinds (routes others : List Route) : Prop where
  halves : routes.filter IsHalf = others.filter IsHalf
  fallbacks : routes.filter IsFallback = others.filter IsFallback
  others : routes.filter IsOther = others.filter IsOther

section SameKinds

variable {routes others : List Route}

theorem find?_filter_kind
    {test : Route → Bool} {kind : Route → Prop} [DecidablePred kind]
    (hkind : ∀ r, kind r ↔ test r = true)
    (h : routes.filter kind = others.filter kind) :
    routes.find? test = others.find? test := by
  have htest : test = fun r => decide (kind r) :=
    funext (fun r => by rw [Bool.eq_iff_iff, decide_eq_true_iff, hkind])
  rw [htest, ← List.head?_filter, ← List.head?_filter, h]

/-- No default route and no route to a half of all addresses leads to the server. -/
theorem findSome?_serverAddress
    (fallback : Route) (routes : List Route) :
    routes.findSome? (serverAddress? fallback)
      = (routes.filter IsOther).findSome? (serverAddress? fallback) := by
  induction routes with
  | nil =>
      rfl
  | cons r routes ih =>
      by_cases hother : r.IsOther
      · rw [List.filter_cons_of_pos (by simpa using hother), List.findSome?_cons, List.findSome?_cons, ih]
      · have hnone : serverAddress? fallback r = none := by
          rw [serverAddress?_eq_none_iff]
          rintro ⟨v, hserver⟩
          exact hother hserver.other
        rw [List.filter_cons_of_neg (by simpa using hother), List.findSome?_cons, hnone]
        exact ih

/-- The routes of each kind by themselves decide which tunnel is shown. -/
theorem ofRoutes_eq_of_sameKinds
    (h : SameKinds routes others) :
    Tunnel.ofRoutes routes = Tunnel.ofRoutes others := by
  have hhalf : splitDefault? routes = splitDefault? others :=
    find?_filter_kind (fun _ => isHalf_iff) h.halves
  have hfallback : routes.find? isDefault = others.find? isDefault :=
    find?_filter_kind (fun _ => isFallback_iff) h.fallbacks
  have hserver : ∀ fallback, routes.findSome? (serverAddress? fallback)
      = others.findSome? (serverAddress? fallback) := by
    intro fallback
    rw [findSome?_serverAddress, h.others, ← findSome?_serverAddress]
  simp only [Tunnel.ofRoutes, tunnelInterface, server, hhalf, hfallback, hserver]

end SameKinds

/-! ## Rows that do not count -/

/-- Rows do not count under some columns: none of them names columns, and they give routes of which none
counts. -/
structure Idle (columns : Columns) (rows : List (List String)) : Prop where
  row : ∀ row ∈ rows, row.head? ≠ some "Destination"
  routes : ∃ found, ofLines columns rows = .ok found ∧ ∀ r ∈ found, ¬ r.Counts

/-- The routes of some lines that count. -/
def counting (lines : List (List String)) : Except Failure (List Route) :=
  (·.filter Counts) <$> ofLines [] lines

theorem columnsAfter_of_rows
    {rows : List (List String)} (hrows : ∀ row ∈ rows, row.head? ≠ some "Destination") (columns : Columns) :
    columnsAfter columns rows = columns := by
  induction rows with
  | nil =>
      rfl
  | cons row rows ih =>
      obtain ⟨hrow, hmore⟩ := List.forall_mem_cons.1 hrows
      exact (congrArg (columnsAfter · rows) (if_neg hrow)).trans (ih hmore)

/-- Rows that do not count may stand anywhere. -/
theorem counting_insert
    {earlier rows later : List (List String)}
    (h : Idle (columnsAfter [] earlier) rows) :
    counting (earlier ++ rows ++ later) = counting (earlier ++ later) := by
  obtain ⟨found, hfound, hidle⟩ := h.routes
  have hnone : found.filter Counts = [] :=
    List.filter_eq_nil_iff.2 (fun r hr => by simpa using hidle r hr)
  unfold counting
  rw [List.append_assoc, ofLines_append, ofLines_append, ofLines_append, hfound,
    columnsAfter_of_rows h.row]
  cases ofLines [] earlier with
  | error f =>
      rfl
  | ok first =>
      cases ofLines (columnsAfter [] earlier) later with
      | error f =>
          rfl
      | ok last =>
          change Except.ok ((first ++ (found ++ last)).filter Counts) = Except.ok ((first ++ last).filter Counts)
          rw [List.filter_append, List.filter_append, hnone, List.nil_append, List.filter_append]

end Route

/-! ## The tunnel in a table -/

namespace Tunnel

open Route

theorem ofTable_run (text : String) (m : Machine) :
    (ofTable text m).1 = ofRoutes <$> counting (fieldsOf text) := by
  have hcounts : Route.isUsable = fun r => decide r.Counts :=
    funext (fun r => by rw [Bool.eq_iff_iff, decide_eq_true_iff, counts_iff])
  rw [(ofTable_consults text).run m, answer_ofTable, hcounts, ofTable_eq]
  unfold counting
  cases ofLines [] (fieldsOf text) <;> rfl

/-- A table that can be read shows a tunnel: its interface is that of the first route that counts and leads to a
half of all addresses, and its server the first single host that is reached the way of the first default route.
Another table shows the same one if its routes of each kind are the same, and so does the table with rows that
do not count put in anywhere or taken out. -/
theorem ofTable_shows
    {text : String} {routes : List Route}
    (h : Route.ofTable text = .ok routes) (m : Machine) :
    ∃ tunnel, (ofTable text m).1 = .ok tunnel
      ∧ Shows (routes.filter Counts) tunnel
      ∧ (∀ other others m', Route.ofTable other = .ok others →
          SameKinds (routes.filter Counts) (others.filter Counts) →
          (ofTable other m').1 = .ok tunnel)
      ∧ (∀ other earlier rows later m', Idle (columnsAfter [] earlier) rows →
          (fieldsOf text = earlier ++ later ∧ fieldsOf other = earlier ++ rows ++ later
            ∨ fieldsOf text = earlier ++ rows ++ later ∧ fieldsOf other = earlier ++ later) →
          (ofTable other m').1 = .ok tunnel) := by
  have hcounting : ∀ {text routes}, Route.ofTable text = .ok routes →
      counting (fieldsOf text) = .ok (routes.filter Counts) := by
    intro text routes h
    rw [ofTable_eq] at h
    rw [counting, h]
    rfl
  refine ⟨ofRoutes (routes.filter Counts), ?_, ofRoutes_shows _, ?_, ?_⟩
  · rw [ofTable_run, hcounting h]
    rfl
  · intro other others m' hother hsame
    rw [ofTable_run, hcounting hother, ofRoutes_eq_of_sameKinds hsame]
    rfl
  · intro other earlier rows later m' hidle hplaced
    have hequal : counting (fieldsOf other) = counting (fieldsOf text) := by
      rcases hplaced with ⟨htext, hother⟩ | ⟨htext, hother⟩
      · rw [htext, hother, counting_insert hidle]
      · rw [htext, hother, counting_insert hidle]
    rw [ofTable_run, hequal, hcounting h]
    rfl

/-! ## A table with a tunnel -/

/-- A table with a route that does not count, and with two single hosts of which only the second one is reached
the way of the default route. -/
def tunnelTable : String :=
  "Destination Gateway Flags Netif\n"
    ++ "0/1 127.0.0.1 UGSc lo0\n"
    ++ "default 192.168.1.1 UGSc en0\n"
    ++ "198.51.100.9 10.8.0.1 UGHS utun4\n"
    ++ "128.0/1 10.8.0.1 UGSc utun4\n"
    ++ "198.51.100.7/32 192.168.1.1 UGHS en0\n"

def defaultRoute : Route :=
  ⟨"default", "192.168.1.1", "UGSc", "en0"⟩

def tunneledRoute : Route :=
  ⟨"198.51.100.9", "10.8.0.1", "UGHS", "utun4"⟩

def halfRoute : Route :=
  ⟨"128.0/1", "10.8.0.1", "UGSc", "utun4"⟩

def serverRoute : Route :=
  ⟨"198.51.100.7/32", "192.168.1.1", "UGHS", "en0"⟩

def tunnelRoutes : List Route :=
  [⟨"0/1", "127.0.0.1", "UGSc", "lo0"⟩, defaultRoute, tunneledRoute, halfRoute, serverRoute]

theorem ofTable_tunnelTable :
    Route.ofTable tunnelTable = .ok tunnelRoutes := by
  have hfields : fieldsOf tunnelTable = ["Destination", "Gateway", "Flags", "Netif"]
      :: tunnelRoutes.map (fun r => [r.destination, r.gateway, r.flags, r.interface]) := by
    unfold fieldsOf tunnelTable
    simp only [String.toList_append]
    decide +kernel
  rw [ofTable_eq, hfields]
  rfl

/-- The interface is that of the route behind the one that does not count, and the server is the last host. -/
theorem tunnelTable_shows :
    Route.ofTable tunnelTable = .ok tunnelRoutes
      ∧ (ofTable tunnelTable (.ofHost Lock.obligingHost)).1 = .ok ⟨"utun4", "198.51.100.7"⟩ := by
  obtain ⟨tunnel, hrun, hshows, -, -⟩ := ofTable_shows ofTable_tunnelTable (.ofHost Lock.obligingHost)
  have hfallback : IsFirst IsFallback (tunnelRoutes.filter Counts) defaultRoute :=
    ⟨[], _, rfl, rfl, by simp⟩
  have hhalf : IsFirst IsHalf (tunnelRoutes.filter Counts) halfRoute :=
    ⟨[defaultRoute, tunneledRoute], [serverRoute], rfl, by decide, by decide⟩
  have hhost : IsHost serverRoute.destination ⟨198, 51, 100, 7⟩ :=
    ⟨"/32", by decide, by decide⟩
  have hothers : ∀ r ∈ [defaultRoute, tunneledRoute, halfRoute], serverAddress? defaultRoute r = none := by
    decide
  have hfirst : IsFirst (fun r => ∃ v, IsServer defaultRoute r v) (tunnelRoutes.filter Counts) serverRoute :=
    ⟨[defaultRoute, tunneledRoute, halfRoute], [], rfl, ⟨_, by decide, rfl, rfl, hhost⟩,
      fun r hr => serverAddress?_eq_none_iff.1 (hothers r hr)⟩
  have hinterface : tunnel.interface = "utun4" := hshows.interface _ hhalf (.inr (by decide))
  have hserver : tunnel.server = "198.51.100.7" := hshows.server _ _ _ hfallback hfirst hhost
  refine ⟨ofTable_tunnelTable, ?_⟩
  rw [hrun, ← hinterface, ← hserver]

end Tunnel
end Killswitch
