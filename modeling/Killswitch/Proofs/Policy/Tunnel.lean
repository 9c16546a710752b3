import Killswitch.Proofs.Policy.Destinations

/-!
# Policies with and without a tunnel

Options that ask for the tunnel and options that do not come to policies that differ only at the end of their two
lists. The network interfaces of the host decide about warnings alone.

**Warnings.** A journal warns of some interfaces if the warnings in it that an interface does not exist are about
these, in their order. Nothing but the last step of a policy makes such a warning: all earlier remarks come from
other parts of the program, or say that there is no tunnel.

**Results.**
* `Warns`, `Warns.append`: the interfaces that a journal warns of;
* `warns_build`: the interfaces that are warned of when a policy is built;
* `answer_build_listing`: the same answer on hosts that differ in their interfaces;
* `tunnel_extends_policy`: the two policies side by side, and what the interfaces of the host do to them.
-/

namespace Killswitch

open Killswitch.Action

namespace Policy

/-! ## Warnings of interfaces -/

/-- The warning that the host does not have an interface. -/
def unknownInterface (name : String) : Event :=
  .remark ⟨.warning, origin, "Interface " ++ name ++ " does not exist on this host"⟩

/-- A journal warns of some interfaces, in their order, and of no other one. -/
inductive Warns : Journal → List String → Prop
  | nil :
      Warns [] []
  | warning {j : Journal} {names : List String} (name : String)
      (hrest : Warns j names) :
      Warns (unknownInterface name :: j) (name :: names)
  | other {j : Journal} {names : List String} {e : Event}
      (he : ∀ name, e ≠ unknownInterface name)
      (hrest : Warns j names) :
      Warns (e :: j) names

namespace Warns

variable {j k : Journal} {names more : List String}

theorem append
    (hj : Warns j names) (hk : Warns k more) :
    Warns (j ++ k) (names ++ more) := by
  induction hj with
  | nil =>
      exact hk
  | warning name _ ih =>
      exact .warning name ih
  | other he _ ih =>
      exact .other he ih

theorem of_others
    (hall : ∀ e ∈ j, ∀ name, e ≠ unknownInterface name) :
    Warns j [] := by
  induction j with
  | nil =>
      exact .nil
  | cons e j ih =>
      obtain ⟨he, hj⟩ := List.forall_mem_cons.1 hall
      exact .other he (ih hj)

theorem map_unknownInterface
    (names : List String) :
    Warns (names.map unknownInterface) names := by
  induction names with
  | nil =>
      exact .nil
  | cons name names ih =>
      exact .warning name ih

end Warns

/-- A remark of another part of the program is no warning of an interface. -/
theorem ne_unknownInterface_of_remarkOf
    {other : String} {e : Event}
    (he : e.RemarkOf other) (hother : other ≠ origin) (name : String) :
    e ≠ unknownInterface name := by
  obtain ⟨level, text, rfl⟩ := he
  intro h
  injection h with h
  injection h with _ horigin _
  exact hother horigin

theorem call_ne_unknownInterface
    (c : Call) (name : String) :
    Event.call c ≠ unknownInterface name :=
  Event.noConfusion

/-- No entry of an extraction is a warning of an interface. -/
theorem ne_unknownInterface_of_extracts
    {e : Event} (he : Source.Extracts e) (name : String) :
    e ≠ unknownInterface name := by
  rcases he with hremark | ⟨host, rfl⟩
  · exact ne_unknownInterface_of_remarkOf hremark (by decide) name
  · exact call_ne_unknownInterface _ name

/-- No entry of the search for the tunnel is a warning of an interface. -/
theorem ne_unknownInterface_of_searches
    {e : Event} (he : Tunnel.Searches e) (name : String) :
    e ≠ unknownInterface name := by
  rcases he with rfl | hremark
  · exact call_ne_unknownInterface _ name
  · exact ne_unknownInterface_of_remarkOf hremark (by decide) name

/-- The warning that there is no tunnel is about no interface. -/
theorem noTunnel_ne_unknownInterface
    (name : String) :
    Event.remark ⟨.warning, origin, "No VPN tunnel found in the routing table"⟩ ≠ unknownInterface name := by
  intro h
  injection h with h
  injection h with _ _ htext
  have hfirst := congrArg (fun text : String => text.toList.head?) htext
  simp at hfirst

/-! ## What is warned of -/

/-- The interfaces of a policy that a listing of the host's does not have. Where there is no listing, none is
missing. -/
def missing (listing : Except Fault (List String)) (interfaces : List String) : List String :=
  match listing with
  | .ok known => interfaces.filter (fun name => name ∉ known)
  | .error _ => []

section Building

variable {o : Options} {h : Host} {p : Policy}

theorem warns_extract
    (sources : List Source) :
    Warns (entries (Source.extract sources) h) [] :=
  .of_others (fun e he => ne_unknownInterface_of_extracts
    ((Source.extract_extracts sources).entries_allowed h e he))

theorem warns_addTunnel
    (interfaces destinations : List String) (tunnel : Tunnel) :
    Warns (entries (addTunnel interfaces destinations tunnel) h) [] := by
  unfold addTunnel
  split
  · exact .other noTunnel_ne_unknownInterface .nil
  · exact .nil

theorem warns_lists
    (destinations : List String) :
    Warns (entries (lists o destinations) h) [] := by
  unfold lists
  split
  · have hcurrent : Warns (entries Tunnel.current h) [] :=
      .of_others (fun e he => ne_unknownInterface_of_searches (Tunnel.current_searches.entries_allowed h e he))
    rw [withTunnel_eq, entries_bind Tunnel.current_consults (fun t => (addTunnel_consults _ _ t).any)]
    refine hcurrent.append (?_ : Warns _ [])
    cases answer Tunnel.current h with
    | error e =>
        exact .nil
    | ok tunnel =>
        exact warns_addTunnel _ _ tunnel
  · exact .nil

/-- One warning is entered for each name. -/
theorem entries_warnOf
    (names : List String) :
    entries (warnOf names) h = names.map unknownInterface := by
  induction names with
  | nil =>
      rfl
  | cons name names ih =>
      rw [warnOf_cons, entries_bind (remark_consults _ _ _) (fun _ => warnOf_consults names), List.map_cons, ← ih]
      rfl

/-- The interfaces that are not in the listing are warned of. -/
theorem warns_warnUnknown
    (interfaces : List String) :
    Warns (entries (warnUnknown interfaces) h) (missing h.interfaces interfaces) := by
  have hhost : entries (warnUnknown interfaces) h = (warnUnknown interfaces (.ofHost h)).2.journal := rfl
  rw [hhost, warnUnknown, host_bind_run, show (Machine.ofHost h).host = h from rfl]
  have hremark : ∀ text name, Event.remark ⟨.debug, origin, text⟩ ≠ unknownInterface name := by
    intro text name heq
    injection heq with heq
    injection heq with hlevel _ _
    contradiction
  rcases h.interfaces with (e | e | _ | _) | known
  · exact .other (hremark _) .nil
  · exact .nil
  · exact .other (hremark _) .nil
  · exact .nil
  · have hloop := entries_bind (h := h) (f := fun _ => pure (interfaces.filter (!known.contains ·)))
      (warnOf_consults (interfaces.filter (!known.contains ·))) (fun _ => .pure _)
    rw [entries_warnOf, answer_warnOf] at hloop
    have hmissing : missing (.ok known) interfaces = interfaces.filter (!known.contains ·) :=
      List.filter_congr (fun name _ => by simp)
    rw [hmissing]
    refine Eq.subst (motive := fun j => Warns j _) ?_ (Warns.map_unknownInterface _)
    exact ((List.append_nil _).symm.trans hloop.symm)

theorem warns_finish
    (names : List String × List String) :
    Warns (entries (finish o names) h) (missing h.interfaces names.1) := by
  rw [finish, entries_bind (warnUnknown_consults names.1) (fun _ => .pure _), ← List.append_nil (missing _ _)]
  refine (warns_warnUnknown names.1).append ?_
  cases answer (warnUnknown names.1) h <;> exact .nil

/-- When a policy is built, the interfaces of it that the host's listing does not have are warned of. -/
theorem warns_build
    (hp : answer (build o) h = .ok p) :
    Warns (entries (build o) h) (missing h.interfaces p.interfaces) := by
  obtain ⟨destinations, names, hextract, hlists, hfinish⟩ := answer_build_ok hp
  have hnames : p.interfaces = names.1 := by
    rw [answer_finish] at hfinish
    obtain ⟨-, -, rfl⟩ := map_eq_ok_iff.1 hfinish
    rfl
  rw [build_eq, entries_bind (Source.extract_consults o.sources).any (rest_consults o), hextract]
  refine (warns_extract o.sources).append (?_ : Warns _ (missing h.interfaces p.interfaces))
  dsimp only
  rw [entries_bind (lists_consults o destinations) (fun names => (finish_consults o names).any), hlists, hnames]
  exact (warns_lists destinations).append (warns_finish names)

/-! ## Hosts that differ in their interfaces -/

/-- The same host with another listing of its interfaces. -/
def withListing (h : Host) (listing : Except Fault (List String)) : Host :=
  { h with interfaces := listing }

theorem answer_extract_listing
    (sources : List Source) (listing : Except Fault (List String)) :
    answer (Source.extract sources) (withListing h listing) = answer (Source.extract sources) h := by
  rw [Source.answer_extract, Source.answer_extract]
  rfl

/-- What a listing of the routing table shows does not depend on the host. -/
theorem answer_ofListing
    (run : Run) (other : Host) :
    answer (Tunnel.ofListing run) other = answer (Tunnel.ofListing run) h := by
  rcases run with ⟨code, output, errors⟩ | captured | e | e | e | e
  · unfold Tunnel.ofListing
    dsimp only
    split
    · rfl
    · rw [Tunnel.answer_ofTable, Tunnel.answer_ofTable]
  all_goals rfl

theorem sought_listing
    (listing : Except Fault (List String)) :
    sought o (withListing h listing) = sought o h := by
  unfold sought
  rw [Tunnel.answer_current, Tunnel.answer_current]
  exact congrArg (if o.useRouting then · else _) (answer_ofListing h.routes _)

/-- A host with another listing of its interfaces comes to the same policy, unless the listing fails for another
reason than that they cannot be listed. -/
theorem answer_build_listing
    {listing : Except Fault (List String)}
    (hlisting : ∀ f, listing = .error f → f = .listing ∨ ∃ e, f = .system e)
    (hp : answer (build o) h = .ok p) :
    answer (build o) (withListing h listing) = .ok p := by
  obtain ⟨destinations, tunnel, hextract, hsought, rfl⟩ := exists_assembled hp
  rw [answer_build, answer_extract_listing, hextract, ok_bind, sought_listing, hsought, ok_bind,
    listing_eq_ok hlisting]
  rfl

/-- A policy on a host with another listing of its interfaces is the same. -/
theorem eq_of_answer_build_listing
    {listing : Except Fault (List String)} {q : Policy}
    (hp : answer (build o) h = .ok p) (hq : answer (build o) (withListing h listing) = .ok q) :
    q = p := by
  obtain ⟨destinations, tunnel, hextract, hsought, rfl⟩ := exists_assembled hp
  obtain ⟨destinations', tunnel', hextract', hsought', rfl⟩ := exists_assembled hq
  rw [answer_extract_listing, hextract] at hextract'
  rw [sought_listing, hsought] at hsought'
  cases hextract'
  cases hsought'
  rfl

/-! ## The two policies -/

/-- A name as a list, which is empty if the name is, or if it is among some names. -/
def lacking (names : List String) (name : String) : List String :=
  if name = "" ∨ name ∈ names then [] else [name]

theorem of_append_named
    (names : List String) (name : String) :
    Distinct.of (names ++ named name) = Distinct.of names ++ lacking (Distinct.of names) name := by
  rw [Distinct.of_append]
  unfold named lacking
  by_cases hname : name = ""
  · simp [hname]
  · by_cases hmem : name ∈ names
    · simp [hname, hmem, Distinct.add]
    · simp [hname, hmem, Distinct.add]

theorem nodup_interfaces
    (hp : answer (build o) h = .ok p) :
    p.interfaces.Nodup := by
  obtain ⟨_, _, -, -, rfl⟩ := exists_assembled hp
  exact Distinct.nodup_extend List.nodup_nil _

/-- A policy without a tunnel has the destinations of its sources. -/
theorem assembled_without
    {destinations : List String}
    (hextract : answer (Source.extract o.sources) h = .ok destinations) :
    (assembled o destinations ⟨"", ""⟩).destinations = destinations
      ∧ (assembled o destinations ⟨"", ""⟩).interfaces = o.interfaces.eraseDups := by
  have hnone : ∀ names : List String, names ++ named "" = names := List.append_nil
  unfold assembled
  rw [hnone, hnone, Source.of_answer_extract hextract, Distinct.of_eq_eraseDups]
  exact ⟨rfl, rfl⟩

/-- The lists of a policy with a tunnel are those without it, and at the end what they lack of the tunnel. -/
theorem assembled_eq_append
    (destinations : List String) (tunnel : Tunnel) :
    (assembled o destinations tunnel).interfaces
        = (assembled o destinations ⟨"", ""⟩).interfaces
          ++ lacking (assembled o destinations ⟨"", ""⟩).interfaces tunnel.interface
      ∧ (assembled o destinations tunnel).destinations
        = (assembled o destinations ⟨"", ""⟩).destinations
          ++ lacking (assembled o destinations ⟨"", ""⟩).destinations tunnel.server := by
  have hnone : ∀ names : List String, names ++ named "" = names := List.append_nil
  unfold assembled
  rw [hnone, hnone]
  exact ⟨of_append_named o.interfaces tunnel.interface, of_append_named destinations tunnel.server⟩

end Building

/-- Options that ask for the tunnel and options that do not come to policies without repetitions, with the same
permissions and the same baseline. Without the tunnel the interfaces are those of the options, where each comes
first, and the destinations are those of the sources. With it each of the two lists has at its end the name that the
tunnel has for it, if there is one and the list lacks it. What the host lists as its interfaces changes neither
policy, and an error of the listing does not either; but the interfaces of the policy that a listing lacks are warned
of, each once and in order. -/
theorem tunnel_extends_policy (o : Options) (m : Machine) (off on : Policy)
    (hoff : (build { o with useRouting := false } m).1 = .ok off)
    (hon : (build { o with useRouting := true } m).1 = .ok on) :
    (off.interfaces.Nodup ∧ off.destinations.Nodup ∧ on.interfaces.Nodup ∧ on.destinations.Nodup)
      ∧ off.interfaces = o.interfaces.eraseDups
      ∧ (Source.extract o.sources m).1 = .ok off.destinations
      ∧ (∃ tunnel, (Tunnel.current m).1 = .ok tunnel
          ∧ on.interfaces = off.interfaces ++ lacking off.interfaces tunnel.interface
          ∧ on.destinations = off.destinations ++ lacking off.destinations tunnel.server)
      ∧ (on.allow = off.allow ∧ on.baseline = off.baseline)
      ∧ ∀ r p, (build { o with useRouting := r } m).1 = .ok p →
          (∃ entered, (build { o with useRouting := r } m).2.journal = m.journal ++ entered
            ∧ Warns entered (missing m.host.interfaces p.interfaces))
          ∧ ∀ listing,
            let outcome := (build { o with useRouting := r } { m with host := withListing m.host listing }).1
            ((∀ f, listing = .error f → f = .listing ∨ ∃ e, f = .system e) → outcome = .ok p)
              ∧ ∀ q, outcome = .ok q → q = p := by
  rw [(build_consults _).run m] at hoff hon
  refine ⟨⟨nodup_interfaces hoff, nodup_destinations hoff, nodup_interfaces hon, nodup_destinations hon⟩, ?_⟩
  obtain ⟨destinations, absent, hextract, habsent, rfl⟩ := exists_assembled hoff
  obtain ⟨destinations', tunnel, hextract', htunnel, rfl⟩ := exists_assembled hon
  obtain rfl := Except.ok.inj (hextract.symm.trans hextract')
  obtain rfl : ⟨"", ""⟩ = absent := Except.ok.inj habsent
  obtain ⟨hdestinations, hinterfaces⟩ := assembled_without (o := { o with useRouting := false }) hextract
  refine ⟨hinterfaces, ?_, ⟨tunnel, ?_, assembled_eq_append (o := o) destinations tunnel⟩, ⟨rfl, rfl⟩,
    fun r p hp => ?_⟩
  · rw [(Source.extract_consults o.sources).run m, hdestinations]
    exact hextract
  · rw [Tunnel.current_consults.run m]
    exact htunnel
  · rw [(build_consults _).run m] at hp ⊢
    refine ⟨⟨_, rfl, warns_build hp⟩, fun listing => ?_⟩
    rw [(build_consults _).run]
    exact ⟨fun hlisting => answer_build_listing hlisting hp, fun q hq => eq_of_answer_build_listing hp hq⟩

/-- A host with a tunnel that is not up yet. -/
def risingHost : Host :=
  { Lock.obligingHost with
    routes := .ended 0 ("Destination Gateway Flags Netif\n" ++ "default 192.168.1.1 UGSc en0\n"
      ++ "128.0/1 10.8.0.1 UGSc utun4\n" ++ "198.51.100.7/32 192.168.1.1 UGHS en0\n") ""
    interfaces := .ok ["lo0", "en0"] }

def risingOptions : Options :=
  ⟨.none, ["utun3", "en0", "utun3"], [⟨.address, "192.0.2.9"⟩], false, ""⟩

theorem risingHost_build :
    (build risingOptions (.ofHost risingHost)).1 = .ok (.of .none ["utun3", "en0"] ["192.0.2.9"] "")
      ∧ (build { risingOptions with useRouting := true } (.ofHost risingHost)).1
        = .ok (.of .none ["utun3", "en0", "utun4"] ["192.0.2.9", "198.51.100.7"] "") :=
  ⟨toOption_eq_some_iff.1 (by decide +kernel), toOption_eq_some_iff.1 (by decide +kernel)⟩

/-- The tunnel is added to both lists, and is warned of with the interface that the options name; a host whose
interfaces cannot be listed comes to the same policy. -/
theorem risingHost_extends :
    (build { risingOptions with useRouting := true } (.ofHost risingHost)).1
        = .ok (.of .none ["utun3", "en0", "utun4"] ["192.0.2.9", "198.51.100.7"] "")
      ∧ Warns (build { risingOptions with useRouting := true } (.ofHost risingHost)).2.journal ["utun3", "utun4"]
      ∧ (build { risingOptions with useRouting := true } (.ofHost (withListing risingHost (.error .listing)))).1
        = .ok (.of .none ["utun3", "en0", "utun4"] ["192.0.2.9", "198.51.100.7"] "") := by
  obtain ⟨-, -, -, -, -, hall⟩ := tunnel_extends_policy risingOptions (.ofHost risingHost) _ _
    risingHost_build.1 risingHost_build.2
  obtain ⟨⟨entered, hjournal, hwarns⟩, hlistings⟩ := hall true _ risingHost_build.2
  refine ⟨risingHost_build.2, ?_, (hlistings (.error .listing)).1 (fun f hf => .inl (Except.error.inj hf).symm)⟩
  rw [hjournal]
  exact hwarns

end Policy
end Killswitch
