import Killswitch.Proofs.Address.Family
import Killswitch.Proofs.Policy.Merging
import Killswitch.Proofs.Route.Selection

/-!
# The destinations of a policy

Destinations are compared, and their families told apart, by their texts alone. Both are right because of what the
texts are: literal addresses, if the resolver is relied on for these, and IPv4 addresses in the one spelling that
they have.

**Where destinations come from.** A destination is an item of a source that is a literal address, or what the
resolver answers for an item, without its zone, or the server of a tunnel. The server is an IPv4 address that is
spelled anew.

**Results.**
* `Source.isLiteral_of_extract`: the destinations of sources, if the resolver answers in literal addresses;
* `Tunnel.isV4_server_of_current`: the server of a tunnel;
* `mem_destinations`, `nodup_destinations`: what a policy has beside the destinations of its sources, and that it
  has nothing twice;
* `families_kept`: a destination is of the family that its rule names;
* `destinations_apart`: no two destinations are the same IPv4 address.
-/

namespace Killswitch

open Killswitch.Action
open Address (V4 Literal IsV4 IsV6 isLiteral)

/-! ## Destinations of sources -/

namespace Source

/-- The resolver answers in literal addresses. -/
def AnswersInLiterals (h : Host) : Prop :=
  ∀ name answer, h.addresses name = .ok answer → ∀ address ∈ answer, isLiteral address = true

def ResolvesToLiterals (h : Host) : Prop :=
  ∀ name addresses, answer (addressesOf name) h = .ok addresses → ∀ a ∈ addresses, isLiteral a = true

section Resolved

variable {h : Host}

/-- Literal addresses stay such when their zones are cut off. -/
theorem resolvesToLiterals_of_answers
    (hanswers : AnswersInLiterals h) :
    ResolvesToLiterals h := by
  intro name addresses haddresses a ha
  rw [answer_addressesOf] at haddresses
  obtain ⟨cut, hcut, rfl⟩ := map_eq_ok_iff.1 haddresses
  obtain ⟨reply, hreply, rfl⟩ := exists_answer_of_resolution hcut
  obtain ⟨address, hmem, rfl⟩ := List.mem_map.1 (Distinct.mem_of.1 ha)
  exact Address.isLiteral_before (hanswers name reply hreply address hmem)

/-- The destinations of sources are literal addresses: an item is one itself, or its addresses are. -/
theorem isLiteral_of_extract
    {sources : List Source} {destinations : List String}
    (hresolves : ResolvesToLiterals h)
    (hextract : answer (extract sources) h = .ok destinations) :
    ∀ d ∈ destinations, isLiteral d = true := by
  intro d hd
  obtain ⟨-, -, item, list, -, hcontribution, hin⟩ := exists_contribution_of_extract hextract hd
  by_cases hliteral : isLiteral item = true
  · rw [contribution_literal hliteral] at hcontribution
    obtain rfl := Except.ok.inj hcontribution
    obtain rfl := List.mem_singleton.1 hin
    exact hliteral
  · rw [contribution_name hliteral] at hcontribution
    have haddresses : answer (addressesOf item) h = .ok (Distinct.of list) := by
      rw [answer_addressesOf, hcontribution]
      rfl
    exact hresolves item _ haddresses d (Distinct.mem_of.2 hin)

end Resolved

end Source

/-! ## The server of a tunnel -/

/-- The server that routes show is an IPv4 address, if there is one. -/
theorem Route.isV4_server
    {routes : List Route} (hserver : server routes ≠ "") :
    IsV4 (server routes) := by
  obtain ⟨-, -, v, -, -, -, htext⟩ := (server_eq_iff hserver).1 rfl
  refine ⟨v, ?_⟩
  rw [htext, String.toList_ofList]
  exact Address.V4.ofChars?_eq_some_iff.2 rfl

/-- The server of a tunnel is an IPv4 address, if it is known. -/
theorem Tunnel.isV4_server_of_current
    {tunnel : Tunnel} {h : Host}
    (hcurrent : answer Tunnel.current h = .ok tunnel) (hserver : tunnel.server ≠ "") :
    IsV4 tunnel.server := by
  have htable : ∃ output, answer (ofTable output) h = .ok tunnel := by
    rw [answer_current] at hcurrent
    unfold ofListing at hcurrent
    split at hcurrent
    · contradiction
    · contradiction
    · contradiction
    · split at hcurrent
      · contradiction
      · exact ⟨_, hcurrent⟩
  obtain ⟨output, htable⟩ := htable
  rw [answer_ofTable] at htable
  obtain ⟨routes, -, rfl⟩ := map_eq_ok_iff.1 htable
  exact Route.isV4_server hserver

namespace Policy

section Built

variable {o : Options} {h : Host} {p : Policy} {d : String}

/-- A policy has the destinations of its sources, and beside them none but a server. -/
theorem mem_destinations
    (hp : answer (build o) h = .ok p) (hd : d ∈ p.destinations) :
    (∃ destinations, answer (Source.extract o.sources) h = .ok destinations ∧ d ∈ destinations) ∨ IsV4 d := by
  obtain ⟨destinations, tunnel, hextract, hsought, rfl⟩ := exists_assembled hp
  rcases List.mem_append.1 (Distinct.mem_of.1 hd) with hmem | hmem
  · exact .inl ⟨destinations, hextract, hmem⟩
  · unfold named at hmem
    split at hmem
    · contradiction
    · rename_i hserver
      obtain rfl := List.mem_singleton.1 hmem
      unfold sought at hsought
      split at hsought
      · exact .inr (Tunnel.isV4_server_of_current hsought hserver)
      · obtain rfl := Except.ok.inj hsought
        contradiction

theorem nodup_destinations
    (hp : answer (build o) h = .ok p) :
    p.destinations.Nodup := by
  obtain ⟨_, _, -, -, rfl⟩ := exists_assembled hp
  exact Distinct.nodup_extend List.nodup_nil _

theorem isLiteral_of_mem_destinations
    (hresolves : Source.ResolvesToLiterals h)
    (hp : answer (build o) h = .ok p) (hd : d ∈ p.destinations) :
    isLiteral d = true := by
  rcases mem_destinations hp hd with ⟨destinations, hextract, hmem⟩ | hv4
  · exact Source.isLiteral_of_extract hresolves hextract d hmem
  · exact Address.isLiteral_of_isV4 hv4

end Built

/-! ## Families of destinations -/

/-- A destination is a literal address, and its rule names the family of that address. -/
def InFamily (d : String) : Prop :=
  ∃ a, Literal.ofString? d = some a
    ∧ (Ruleset.destinationRule d).toString = "pass out quick " ++ a.family.toString ++ " from any to " ++ d

/-- The rule for a literal address names the family of it. -/
theorem inFamily_of_isLiteral
    {d : String} (h : isLiteral d = true) :
    InFamily d := by
  obtain ⟨a, ha⟩ := Address.isLiteral_iff.1 h
  refine ⟨a, ha, ?_⟩
  rw [Literal.family_eq ha]
  rfl

/-- A literal address has a colon if and only if it is an IPv6 address, none is of both families, and without its
zone it is a literal address of the same family. So if the resolver answers in literal addresses, with or without
zones, each destination of sources is a literal address, and its rule names the family of that address. The same is
true of each destination of a policy, whose ruleset has that rule. -/
theorem families_kept (m : Machine) :
    (∀ v, isLiteral v = true →
        (Family.ofDestination v = .inet ↔ IsV4 v)
          ∧ (Family.ofDestination v = .inet6 ↔ IsV6 v)
          ∧ isLiteral (Text.before '%' v) = true
          ∧ (IsV4 (Text.before '%' v) ↔ IsV4 v)
          ∧ (IsV6 (Text.before '%' v) ↔ IsV6 v)
          ∧ Family.ofDestination (Text.before '%' v) = Family.ofDestination v)
      ∧ (∀ v, ¬ (IsV4 v ∧ IsV6 v))
      ∧ (Source.AnswersInLiterals m.host → Source.ResolvesToLiterals m.host)
      ∧ (Source.ResolvesToLiterals m.host →
          (∀ sources destinations, (Source.extract sources m).1 = .ok destinations →
            ∀ d ∈ destinations, InFamily d)
          ∧ (∀ o p, (build o m).1 = .ok p →
            ∀ d ∈ p.destinations, InFamily d ∧ .rule (Ruleset.destinationRule d) ∈ Ruleset.ofPolicy p)) := by
  refine ⟨fun v hv => ?_, fun v ⟨hv4, hv6⟩ => Address.not_isV6_of_isV4 hv4 hv6,
    Source.resolvesToLiterals_of_answers, fun hresolves =>
      ⟨fun sources destinations hextract d hd => ?_, fun o p hp d hd => ?_⟩⟩
  · obtain ⟨a, ha⟩ := Address.isLiteral_iff.1 hv
    have hcut := Literal.ofString?_before ha
    have hfamily : a.withoutZone.family = a.family := Literal.family_withoutZone a
    refine ⟨Address.ofDestination_eq_inet_iff hv, Address.ofDestination_eq_inet6_iff hv,
      Address.isLiteral_before hv, ?_, ?_, ?_⟩
    · rw [Address.isV4_iff_family ha, Address.isV4_iff_family hcut, hfamily]
    · rw [Address.isV6_iff_family ha, Address.isV6_iff_family hcut, hfamily]
    · rw [← Literal.family_eq ha, ← Literal.family_eq hcut, hfamily]
  · rw [(Source.extract_consults sources).run m] at hextract
    exact inFamily_of_isLiteral (Source.isLiteral_of_extract hresolves hextract d hd)
  · rw [(build_consults o).run m] at hp
    refine ⟨inFamily_of_isLiteral (isLiteral_of_mem_destinations hresolves hp hd), ?_⟩
    simp only [Ruleset.ofPolicy, Ruleset.rulesOf, List.map_append, List.mem_append]
    exact .inr (.inr (List.mem_map_of_mem (List.mem_map_of_mem hd)))

/-- A host whose resolver answers with a zone, and whose routing table shows a server that the resolver knows
too. -/
def routedHost : Host :=
  { Lock.obligingHost with
    resolver := [("vpn.example", .ok ["fe80::7%en0", "192.0.2.9", "198.51.100.7"])]
    routes := .ended 0
      "Destination Gateway Flags Netif\ndefault 10.0.0.1 UGSc en0\n198.51.100.7/32 10.0.0.1 UGHS en0" "" }

/-- Options with an address, with a name that has it too, and with the tunnel. -/
def routedOptions : Options :=
  ⟨.none, [], [⟨.address, "192.0.2.9"⟩, ⟨.host, "vpn.example"⟩], true, ""⟩

/-- The policy of these options. -/
def routedPolicy : Policy :=
  .of .none [] ["192.0.2.9", "fe80::7", "198.51.100.7"] ""

theorem routedHost_build :
    (build routedOptions (.ofHost routedHost)).1 = .ok routedPolicy :=
  toOption_eq_some_iff.1 (by decide +kernel)

theorem routedHost_answers :
    Source.AnswersInLiterals routedHost := by
  intro name answer hanswer address hmem
  obtain ⟨-, rfl⟩ : name = "vpn.example" ∧ answer = ["fe80::7%en0", "192.0.2.9", "198.51.100.7"] := by
    simpa [routedHost] using Source.mem_resolver_of_addresses hanswer
  have hall : ∀ a ∈ ["fe80::7%en0", "192.0.2.9", "198.51.100.7"], isLiteral a = true := by
    decide +kernel
  exact hall address hmem

theorem routedHost_families_kept :
    (build routedOptions (.ofHost routedHost)).1 = .ok routedPolicy
      ∧ Family.ofDestination (Text.before '%' "fe80::7%en0") = Family.ofDestination "fe80::7%en0"
      ∧ InFamily "fe80::7"
      ∧ .rule (Ruleset.destinationRule "fe80::7") ∈ Ruleset.ofPolicy routedPolicy := by
  obtain ⟨htexts, -, hanswers, hrules⟩ := families_kept (.ofHost routedHost)
  obtain ⟨-, -, -, -, -, hfamily⟩ := htexts "fe80::7%en0" (by decide +kernel)
  obtain ⟨hrule, hmem⟩ :=
    (hrules (hanswers routedHost_answers)).2 routedOptions routedPolicy routedHost_build "fe80::7" (by decide)
  exact ⟨routedHost_build, hfamily, hrule, hmem⟩

/-! ## IPv4 destinations -/

/-- Two texts are not IPv4 addresses of the same number. -/
def Apart (d e : String) : Prop :=
  ∀ v w, V4.ofChars? d.toList = some v → V4.ofChars? e.toList = some w → v.toNat ≠ w.toNat

theorem apart_of_ne
    {d e : String} (h : d ≠ e) :
    Apart d e :=
  fun _ _ hv hw hsame => h (V4.eq_of_toNat_eq hv hw hsame)

/-- Texts that spell IPv4 addresses of the same number are equal. So no two destinations of a policy are the same
IPv4 address, also where one of them is the server of the tunnel. -/
theorem destinations_apart (m : Machine) :
    (∀ (s t : String) v w, V4.ofChars? s.toList = some v → V4.ofChars? t.toList = some w → v.toNat = w.toNat → s = t)
      ∧ ∀ o p, (build o m).1 = .ok p → p.destinations.Pairwise Apart := by
  refine ⟨fun s t v w => V4.eq_of_toNat_eq, fun o p hp => ?_⟩
  rw [(build_consults o).run m] at hp
  exact (nodup_destinations hp).imp apart_of_ne

/-- The address that is both a source's and the resolver's is there once, and so is the server. -/
theorem routedHost_destinations_apart :
    (build routedOptions (.ofHost routedHost)).1 = .ok routedPolicy
      ∧ String.ofList (V4.toChars ⟨198, 51, 100, 7⟩) = "198.51.100.7"
      ∧ ["192.0.2.9", "fe80::7", "198.51.100.7"].Pairwise Apart := by
  obtain ⟨htexts, hpolicies⟩ := destinations_apart (.ofHost routedHost)
  refine ⟨routedHost_build, ?_, hpolicies routedOptions routedPolicy routedHost_build⟩
  exact htexts _ "198.51.100.7" ⟨198, 51, 100, 7⟩ ⟨198, 51, 100, 7⟩
    (by rw [String.toList_ofList]; decide) (by decide) rfl

end Policy
end Killswitch
