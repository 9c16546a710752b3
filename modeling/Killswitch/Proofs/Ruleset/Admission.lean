import Killswitch.Proofs.Ruleset.Reading
import Killswitch.Ruleset.Lock

/-!
# The packets that a lock lets through

The text of a policy's ruleset means what the policy says. The first two rules decide by the direction of a
packet, as long as no later rule fits. All later rules are quick and pass, so their order does not matter:
a packet passes if one of them fits, or if its direction is allowed as a whole.

**Results.**
* `legible_ofPolicy`: the names of a policy's ruleset can be found again;
* `judge_ofPolicy`: what becomes of a packet by what the lines of the ruleset say;
* `ruleset_passes_iff`: the packets that the text of the ruleset lets through.
-/

namespace Killswitch

open Killswitch.Address
open Killswitch.Filter

/-! ## Names of the ruleset -/

namespace Ruleset

/-- The private networks and the local groups are named, and each name is that of a network. -/
theorem named_privateNetworks :
    ∀ entry ∈ privateNetworks, (entry.1 ≠ [] ∧ entry.2 ≠ [])
      ∧ ∀ name ∈ entry.1 ++ entry.2, IsName name ∧ (Network.ofString? name).isSome = true := by
  decide

theorem legible_privateNetworkRules :
    ∀ r ∈ privateNetworkRules, r.scope.Legible := by
  intro r hr
  obtain ⟨⟨networks, groups⟩, hentry, hr⟩ := List.mem_flatMap.1 hr
  obtain ⟨⟨hnetworks, hgroups⟩, hnames⟩ := named_privateNetworks _ hentry
  have hnetwork : ∀ name ∈ networks, IsName name :=
    fun name hname => (hnames name (List.mem_append_left _ hname)).1
  have hgroup : ∀ name ∈ groups, IsName name :=
    fun name hname => (hnames name (List.mem_append_right _ hname)).1
  rcases List.mem_append.1 hr with hr | hr
  · obtain ⟨network, hmem, rfl⟩ := List.mem_map.1 hr
    exact hnetwork network hmem
  · obtain rfl := List.mem_singleton.1 hr
    exact ⟨hnetworks, hgroups, hnetwork, hgroup⟩

/-- The names of a policy's ruleset can be found again where those of the policy hold no blank. -/
theorem legible_ofPolicy
    {p : Policy}
    (hinterfaces : ∀ interface ∈ p.interfaces, Unblank interface)
    (hdestinations : ∀ destination ∈ p.destinations, Unblank destination) :
    ∀ line ∈ ofPolicy p, line.Legible := by
  have hskip : (Line.skip (loopback :: p.interfaces)).Legible := by
    refine ⟨by simp, ?_⟩
    intro interface hmem
    rcases List.mem_cons.1 hmem with rfl | hmem
    · decide
    · exact hinterfaces interface hmem
  have hrules : ∀ r ∈ rulesOf p, r.scope.Legible := by
    intro r hr
    simp only [rulesOf, List.mem_append, List.mem_cons, List.not_mem_nil, or_false] at hr
    rcases hr with (((rfl | rfl) | hr) | hr) | hr
    · trivial
    · trivial
    · split at hr
      · exact legible_privateNetworkRules r hr
      · contradiction
    · split at hr
      · obtain rfl := List.mem_singleton.1 hr
        trivial
      · contradiction
    · obtain ⟨destination, hmem, rfl⟩ := List.mem_map.1 hr
      exact hdestinations destination hmem
  intro line hline
  rcases List.mem_append.1 hline with hline | hline
  · simp only [List.mem_cons, List.not_mem_nil, or_false] at hline
    rcases hline with rfl | rfl | rfl
    · trivial
    · exact hskip
    · trivial
  · obtain ⟨r, hr, rfl⟩ := List.mem_map.1 hline
    exact hrules r hr

/-! ## Rules after the first two -/

/-- The rules of a policy that are no defaults. -/
def exceptions (p : Policy) : List Rule :=
  (if p.allow.privateNetwork then privateNetworkRules else [])
    ++ (if p.allow.icmp then icmpRules else [])
    ++ p.destinations.map destinationRule

theorem rulesOf_eq
    (p : Policy) :
    rulesOf p = defaultRule .incoming p.allow.incoming :: defaultRule .outgoing p.allow.outgoing
      :: exceptions p := by
  simp [rulesOf, exceptions]

theorem mem_exceptions
    {p : Policy} {r : Rule} :
    r ∈ exceptions p
      ↔ (p.allow.privateNetwork = true ∧ r ∈ privateNetworkRules)
        ∨ (p.allow.icmp = true ∧ r ∈ icmpRules)
        ∨ ∃ destination ∈ p.destinations, destinationRule destination = r := by
  have hgiven : ∀ (allowed : Bool) (rules : List Rule),
      r ∈ (if allowed then rules else []) ↔ allowed = true ∧ r ∈ rules := by
    intro allowed rules
    cases allowed <;> simp
  simp only [exceptions, List.mem_append, hgiven, List.mem_map, or_assoc]

theorem mem_privateNetworkRules
    {r : Rule} :
    r ∈ privateNetworkRules
      ↔ ∃ entry ∈ privateNetworks,
          (∃ network ∈ entry.1, withinRule network = r) ∨ r = groupRule entry.1 entry.2 := by
  simp only [privateNetworkRules, List.mem_flatMap, List.mem_append, List.mem_map,
    List.mem_singleton]

theorem quick_of_mem_exceptions
    {p : Policy} {r : Rule}
    (h : r ∈ exceptions p) :
    r.clause.quick = true ∧ r.clause.verdict = .pass := by
  rcases mem_exceptions.1 h with ⟨-, hr⟩ | ⟨-, hr⟩ | ⟨destination, -, rfl⟩
  · obtain ⟨entry, -, ⟨network, -, rfl⟩ | rfl⟩ := mem_privateNetworkRules.1 hr
    · exact ⟨rfl, rfl⟩
    · exact ⟨rfl, rfl⟩
  · obtain rfl := List.mem_singleton.1 hr
    exact ⟨rfl, rfl⟩
  · exact ⟨rfl, rfl⟩

/-! ## Packets that fit -/

section Packets

variable {k : Packet}

/-- A packet stays within one private network. -/
def StaysWithin (k : Packet) : Prop :=
  ∃ entry ∈ privateNetworks, ∃ network ∈ entry.1,
    covers network k.source = true ∧ covers network k.target = true

/-- A packet goes from a private network to a group that is heard on the local network. -/
def GoesToGroup (k : Packet) : Prop :=
  ∃ entry ∈ privateNetworks, (∃ network ∈ entry.1, covers network k.source = true)
    ∧ ∃ group ∈ entry.2, covers group k.target = true

/-- A packet is one of the control protocols. -/
def IsControl (k : Packet) : Prop :=
  k.protocol = "icmp" ∨ k.protocol = "icmp6"

theorem fits_default
    (direction : Direction) (allowed : Bool) :
    (defaultRule direction allowed).clause.fits k = true ↔ direction = k.direction := by
  simp [defaultRule, Rule.clause, Scope.clause, Clause.fits, Hosts.hold]

theorem fits_within
    (network : String) :
    (withinRule network).clause.fits k = true
      ↔ covers network k.source = true ∧ covers network k.target = true := by
  simp [withinRule, Rule.clause, Scope.clause, Clause.fits, Hosts.hold]

theorem fits_group
    (networks groups : List String) :
    (groupRule networks groups).clause.fits k = true
      ↔ k.direction = .outgoing ∧ (∃ network ∈ networks, covers network k.source = true)
        ∧ ∃ group ∈ groups, covers group k.target = true := by
  simp [groupRule, Rule.clause, Scope.clause, Clause.fits, Hosts.hold, and_assoc,
    eq_comm (a := Direction.outgoing)]

theorem fits_icmp
    {r : Rule}
    (h : r ∈ icmpRules) :
    r.clause.fits k = true ↔ IsControl k := by
  obtain rfl := List.mem_singleton.1 h
  simp [Rule.clause, Scope.clause, Clause.fits, Hosts.hold, IsControl]

/-- The rule for a destination fits what goes to it: the family of the rule is the one of all that the
destination covers. -/
theorem fits_destination
    (destination : String) :
    (destinationRule destination).clause.fits k = true
      ↔ k.direction = .outgoing ∧ covers destination k.target = true := by
  have hfits : (destinationRule destination).clause.fits k = true
      ↔ k.direction = .outgoing ∧ Family.ofDestination destination = k.target.family
        ∧ covers destination k.target = true := by
    simp [destinationRule, Rule.clause, Scope.clause, Clause.fits, Hosts.hold, and_assoc,
      eq_comm (a := Direction.outgoing)]
  rw [hfits]
  constructor
  · rintro ⟨hdirection, -, hcovers⟩
    exact ⟨hdirection, hcovers⟩
  · rintro ⟨hdirection, hcovers⟩
    exact ⟨hdirection, (family_of_covers hcovers).symm, hcovers⟩

theorem fits_privateNetwork :
    (∃ r ∈ privateNetworkRules, r.clause.fits k = true)
      ↔ StaysWithin k ∨ (k.direction = .outgoing ∧ GoesToGroup k) := by
  constructor
  · rintro ⟨r, hr, hfits⟩
    obtain ⟨entry, hentry, ⟨network, hnetwork, rfl⟩ | rfl⟩ := mem_privateNetworkRules.1 hr
    · exact .inl ⟨entry, hentry, network, hnetwork, (fits_within network).1 hfits⟩
    · obtain ⟨hdirection, hsource, htarget⟩ := (fits_group _ _).1 hfits
      exact .inr ⟨hdirection, entry, hentry, hsource, htarget⟩
  · rintro (⟨entry, hentry, network, hnetwork, hends⟩ | ⟨hdirection, entry, hentry, hsource, htarget⟩)
    · exact ⟨withinRule network, mem_privateNetworkRules.2 ⟨entry, hentry, .inl ⟨network, hnetwork, rfl⟩⟩,
        (fits_within network).2 hends⟩
    · exact ⟨groupRule entry.1 entry.2, mem_privateNetworkRules.2 ⟨entry, hentry, .inr rfl⟩,
        (fits_group _ _).2 ⟨hdirection, hsource, htarget⟩⟩

/-- The packets that a rule after the first two fits. -/
theorem fits_exceptions
    {p : Policy} :
    (∃ r ∈ exceptions p, r.clause.fits k = true)
      ↔ (p.allow.privateNetwork = true ∧ (StaysWithin k ∨ (k.direction = .outgoing ∧ GoesToGroup k)))
        ∨ (p.allow.icmp = true ∧ IsControl k)
        ∨ (k.direction = .outgoing ∧ ∃ destination ∈ p.destinations, covers destination k.target = true) := by
  rw [← fits_privateNetwork]
  constructor
  · rintro ⟨r, hr, hfits⟩
    rcases mem_exceptions.1 hr with ⟨hallowed, hr⟩ | ⟨hallowed, hr⟩ | ⟨destination, hmem, rfl⟩
    · exact .inl ⟨hallowed, r, hr, hfits⟩
    · exact .inr (.inl ⟨hallowed, (fits_icmp hr).1 hfits⟩)
    · obtain ⟨hdirection, hcovers⟩ := (fits_destination destination).1 hfits
      exact .inr (.inr ⟨hdirection, destination, hmem, hcovers⟩)
  · rintro (⟨hallowed, r, hr, hfits⟩ | ⟨hallowed, hcontrol⟩ | ⟨hdirection, destination, hmem, hcovers⟩)
    · exact ⟨r, mem_exceptions.2 (.inl ⟨hallowed, hr⟩), hfits⟩
    · have hr : ⟨.pass, none, true, .icmp⟩ ∈ icmpRules := List.mem_cons_self
      exact ⟨_, mem_exceptions.2 (.inr (.inl ⟨hallowed, hr⟩)), (fits_icmp hr).2 hcontrol⟩
    · exact ⟨destinationRule destination, mem_exceptions.2 (.inr (.inr ⟨destination, hmem, rfl⟩)),
        (fits_destination destination).2 ⟨hdirection, hcovers⟩⟩

end Packets

/-! ## Verdicts -/

/-- Whether a policy allows a direction as a whole. -/
def allows (p : Policy) : Direction → Bool
  | .incoming => p.allow.incoming
  | .outgoing => p.allow.outgoing

/-- The first two rules decide by the direction, unless a later rule fits. -/
theorem settle_rulesOf
    (p : Policy) (k : Packet) :
    settle k .pass ((rulesOf p).map Rule.clause) = .pass
      ↔ allows p k.direction = true ∨ ∃ r ∈ exceptions p, r.clause.fits k = true := by
  have hquick : ∀ c ∈ (exceptions p).map Rule.clause, c.quick = true ∧ c.verdict = .pass := by
    intro c hc
    obtain ⟨r, hr, rfl⟩ := List.mem_map.1 hc
    exact quick_of_mem_exceptions hr
  have hrest : ∀ verdict, settle k verdict ((exceptions p).map Rule.clause)
      = if ((exceptions p).map Rule.clause).any (·.fits k) then .pass else verdict :=
    fun verdict => settle_quick (fun c hc => (hquick c hc).1) (fun c hc => (hquick c hc).2)
  have hfirst : settle k .pass ((rulesOf p).map Rule.clause)
      = settle k (if allows p k.direction then .pass else .block) ((exceptions p).map Rule.clause) := by
    have hfits : ∀ direction allowed, (defaultRule direction allowed).clause.fits k
        = (direction == k.direction) := by
      intro direction allowed
      rw [Bool.eq_iff_iff, fits_default, beq_iff_eq]
    have hslow : ∀ direction allowed, (defaultRule direction allowed).clause.quick = false :=
      fun _ _ => rfl
    rw [rulesOf_eq, List.map_cons, List.map_cons, settle, settle, settle, hfits, hfits]
    cases k.direction <;> simp [hslow] <;> rfl
  have hany : ((exceptions p).map Rule.clause).any (·.fits k) = true
      ↔ ∃ r ∈ exceptions p, r.clause.fits k = true := by
    simp
  rw [hfirst, hrest, ← hany]
  -- four cases: the default of the direction, and whether a later rule fits
  cases allows p k.direction <;> cases ((exceptions p).map Rule.clause).any (·.fits k) <;> simp

/-- What the lines of a policy's ruleset say. -/
theorem statements_ofPolicy
    (p : Policy) :
    (ofPolicy p).map Line.statement
      = [.setting, .skip (loopback :: p.interfaces), .setting]
        ++ ((rulesOf p).map Rule.clause).map .clause := by
  simp [ofPolicy, Line.statement, Function.comp_def]

/-- What becomes of a packet by what the lines of a policy's ruleset say. -/
theorem judge_ofPolicy
    (p : Policy) (k : Packet) :
    judge ((ofPolicy p).map Line.statement ++ [.setting]) k
      = if k.interface = loopback ∨ k.interface ∈ p.interfaces then .pass
        else settle k .pass ((rulesOf p).map Rule.clause) := by
  have hclauses : ∀ clauses : List Clause,
      (clauses.map Statement.clause).filterMap Statement.clause? = clauses := by
    intro clauses
    simp [List.filterMap_map, Function.comp_def, Statement.clause?]
  have hskips : ∀ clauses : List Clause,
      (clauses.map Statement.clause).any (·.skips k.interface) = false := by
    intro clauses
    simp [List.any_map, Function.comp_def, Statement.skips]
  have hsettings : [.setting, .skip (loopback :: p.interfaces), .setting].filterMap Statement.clause? = [] :=
    rfl
  have hlast : [.setting].filterMap Statement.clause? = [] :=
    rfl
  rw [judge, statements_ofPolicy]
  simp only [List.any_append, List.filterMap_append, hskips, hclauses, hsettings, hlast]
  simp [Statement.skips]

end Ruleset

open Killswitch.Ruleset

section Policies

variable {p : Policy} {k : Packet}

theorem judgeText_ruleset
    (hinterfaces : ∀ interface ∈ p.interfaces, Unblank interface)
    (hdestinations : ∀ destination ∈ p.destinations, Unblank destination) :
    judgeText? p.ruleset k
      = some (if k.interface = loopback ∨ k.interface ∈ p.interfaces then .pass
          else settle k .pass ((rulesOf p).map Rule.clause)) := by
  have hread : read? p.ruleset = some ((ofPolicy p).map Line.statement ++ [.setting]) :=
    read_toString (legible_ofPolicy hinterfaces hdestinations)
  rw [judgeText?, hread, Option.map_some, judge_ofPolicy]

/-- On an interface that is not exempt, the text of a policy's ruleset lets a packet out if and only if the
policy allows all that goes out, or one of its destinations covers where the packet goes, or it allows
private networks and the packet stays within one of them or goes from one to a local group, or it allows the
control protocols and the packet is one of these. It lets a packet in if and only if the policy allows all
that comes in, or it allows private networks and the packet stays within one of them, or it allows the
control protocols and the packet is one of these; where it comes from does not matter otherwise. -/
theorem ruleset_passes_iff
    (hinterfaces : ∀ interface ∈ p.interfaces, Unblank interface)
    (hdestinations : ∀ destination ∈ p.destinations, Unblank destination)
    (hloopback : k.interface ≠ "lo0")
    (hother : k.interface ∉ p.interfaces) :
    ∃ verdict, judgeText? p.ruleset k = some verdict
      ∧ (k.direction = .outgoing →
          (verdict = .pass
            ↔ p.allow.outgoing = true
              ∨ (∃ destination ∈ p.destinations, covers destination k.target = true)
              ∨ (p.allow.privateNetwork = true ∧ (StaysWithin k ∨ GoesToGroup k))
              ∨ (p.allow.icmp = true ∧ IsControl k)))
      ∧ (k.direction = .incoming →
          (verdict = .pass
            ↔ p.allow.incoming = true
              ∨ (p.allow.privateNetwork = true ∧ StaysWithin k)
              ∨ (p.allow.icmp = true ∧ IsControl k))) := by
  have hexempt : ¬ (k.interface = loopback ∨ k.interface ∈ p.interfaces) :=
    not_or.2 ⟨hloopback, hother⟩
  refine ⟨_, judgeText_ruleset hinterfaces hdestinations, ?_⟩
  rw [if_neg hexempt, settle_rulesOf, fits_exceptions]
  constructor
  · intro hout
    simp only [hout, allows, true_and]
    constructor
    · rintro (hall | hprivate | hcontrol | hdestination)
      · exact .inl hall
      · exact .inr (.inr (.inl hprivate))
      · exact .inr (.inr (.inr hcontrol))
      · exact .inr (.inl hdestination)
    · rintro (hall | hdestination | hprivate | hcontrol)
      · exact .inl hall
      · exact .inr (.inr (.inr hdestination))
      · exact .inr (.inl hprivate)
      · exact .inr (.inr (.inl hcontrol))
  · intro hin
    simp [hin, allows]

end Policies

/-- A policy with a tunnel and the server behind it. -/
def tunnelPolicy : Policy :=
  .of .none ["utun0"] ["203.0.113.5"] ""

/-- A packet to the server, outside of the tunnel. -/
def serverPacket : Packet :=
  ⟨"en0", .outgoing, "udp", .v4 ⟨192, 0, 2, 1⟩, .v4 ⟨203, 0, 113, 5⟩, rfl⟩

/-- A packet from the server, outside of the tunnel. -/
def strayPacket : Packet :=
  ⟨"en0", .incoming, "udp", .v4 ⟨203, 0, 113, 5⟩, .v4 ⟨192, 0, 2, 1⟩, rfl⟩

theorem tunnelPolicy_passes :
    judgeText? tunnelPolicy.ruleset serverPacket = some .pass
      ∧ judgeText? tunnelPolicy.ruleset strayPacket = some .block := by
  have hinterfaces : ∀ interface ∈ tunnelPolicy.interfaces, Unblank interface := by
    decide
  have hdestinations : ∀ destination ∈ tunnelPolicy.destinations, Unblank destination := by
    decide
  constructor
  · obtain ⟨verdict, hverdict, hout, -⟩ :=
      ruleset_passes_iff (k := serverPacket) hinterfaces hdestinations (by decide) (by decide)
    have hserver : ∃ destination ∈ tunnelPolicy.destinations,
        covers destination serverPacket.target = true := by
      decide
    exact hverdict.trans (congrArg some ((hout rfl).2 (.inr (.inl hserver))))
  · obtain ⟨verdict, hverdict, -, hin⟩ :=
      ruleset_passes_iff (k := strayPacket) hinterfaces hdestinations (by decide) (by decide)
    have hnot : verdict ≠ .pass := by
      intro hpass
      simpa [tunnelPolicy, Policy.of, Permissions.none] using (hin rfl).1 hpass
    cases verdict with
    | pass =>
        exact absurd rfl hnot
    | block =>
        exact hverdict

end Killswitch
