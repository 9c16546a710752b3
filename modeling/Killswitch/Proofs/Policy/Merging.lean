import Killswitch.Proofs.Lock.Check
import Killswitch.Proofs.Source.Extraction

/-!
# Policies of merged options

What two requests ask for together is what each of them asks for, one after the other. Repetitions are
taken out of each list as it is made, which comes to the same as taking them out of the whole at the end.
So the policy of merged options is made of the same parts as the policies of the two, with one tunnel at
the end of both lists.

**What a policy depends on.** A policy has its sources resolved and its tunnel looked up. The interfaces of
the host are listed only to warn of those that are not there, so that a host that cannot list them has a
policy all the same, but an interruption of the listing is passed on.

**Results.**
* `answer_build`: a policy by its parts;
* `answer_extract_append`, `answer_build_merge`: the parts of merged options;
* `build_merge`: the policy of merged options, what two equal requests come to, and what is kept of each;
* `interruptedListing_not_build`: an interruption of the listing leaves no policy.
-/

namespace Killswitch

open Killswitch.Action

namespace Source

/-- The destinations of two lists of sources are those of the one and then those of the other, without
repetitions. -/
theorem answer_extract_append
    (sources more : List Source) (h : Host) :
    answer (extract (sources ++ more)) h =
      answer (extract sources) h >>= fun first =>
        (fun second => Distinct.of (first ++ second)) <$> answer (extract more) h := by
  simp only [answer_extract, List.flatMap_append, gathered_append]
  cases gathered h (sources.flatMap (expansion h)) with
  | error e =>
      rfl
  | ok first =>
      cases gathered h (more.flatMap (expansion h)) with
      | error e =>
          rfl
      | ok second =>
          exact congrArg Except.ok (Distinct.of_append_of first second).symm

/-- Destinations have no repetitions. -/
theorem of_answer_extract
    {sources : List Source} {h : Host} {destinations : List String}
    (hextract : answer (extract sources) h = .ok destinations) :
    Distinct.of destinations = destinations := by
  rw [answer_extract] at hextract
  obtain ⟨list, -, rfl⟩ := map_eq_ok_iff.1 hextract
  exact Distinct.extend_of [] list

end Source

namespace Policy

/-! ## A policy by its parts -/

/-- A name as a list, which is empty if the name is. -/
def named (name : String) : List String :=
  if name = "" then [] else [name]

theorem addName_eq (names : List String) (name : String) :
    addName names name = Distinct.extend names (named name) := by
  unfold addName named
  split <;> rfl

/-- The tunnel that options ask for. Without a request for it both of its names are empty. -/
def sought (o : Options) (h : Host) : Except Failure Tunnel :=
  if o.useRouting then answer Tunnel.current h else .ok ⟨"", ""⟩

/-- What keeps the interfaces of a host from being looked at: a failure other than one to list them. -/
def listing (h : Host) : Except Failure Unit :=
  match h.interfaces with
  | .ok _ => .ok ()
  | .error (.system _) => .ok ()
  | .error .listing => .ok ()
  | .error f => .error (.ofFault f)

theorem listing_eq_ok
    {h : Host}
    (hlisting : ∀ f, h.interfaces = .error f → f = .listing ∨ ∃ e, f = .system e) :
    listing h = .ok () := by
  unfold listing
  rcases hinterfaces : h.interfaces with (e | e | _ | _) | known
  · rfl
  · simpa using hlisting _ hinterfaces
  · rfl
  · simpa using hlisting _ hinterfaces
  · rfl

/-- A policy of options whose destinations and tunnel are known. -/
def assembled (o : Options) (destinations : List String) (tunnel : Tunnel) : Policy :=
  Policy.of o.allow (Distinct.of (o.interfaces ++ named tunnel.interface))
    (Distinct.of (destinations ++ named tunnel.server)) o.baseline

section Answers

variable {o : Options} {h : Host}

theorem answer_addTunnel
    (interfaces destinations : List String) (tunnel : Tunnel) :
    answer (addTunnel interfaces destinations tunnel) h
      = .ok (addName interfaces tunnel.interface, addName destinations tunnel.server) := by
  unfold addTunnel
  split <;> rfl

/-- The lists of a policy are known where the tunnel is. -/
theorem answer_lists
    {destinations : List String}
    (hdistinct : Distinct.of destinations = destinations) :
    answer (lists o destinations) h =
      (fun tunnel => (Distinct.of (o.interfaces ++ named tunnel.interface),
        Distinct.of (destinations ++ named tunnel.server))) <$> sought o h := by
  unfold lists sought
  by_cases hrouting : o.useRouting = true
  · rw [if_pos hrouting, if_pos hrouting, withTunnel_eq,
      answer_bind Tunnel.current_consults (fun t => (addTunnel_consults _ _ t).any)]
    refine bind_congr (fun tunnel => ?_)
    rw [answer_addTunnel, addName_eq, addName_eq]
    dsimp only
    rw [Distinct.of_append, Distinct.of_append, hdistinct]
  · rw [if_neg hrouting, if_neg hrouting]
    have hnone : ∀ names : List String, names ++ named "" = names := List.append_nil
    refine congrArg Except.ok ?_
    dsimp only
    rw [hnone, hnone, hdistinct]

/-- A warning is never refused. -/
theorem answer_warnOf
    (names : List String) :
    answer (warnOf names) h = .ok PUnit.unit := by
  induction names with
  | nil =>
      rfl
  | cons name names ih =>
      rw [warnOf_cons, answer_bind (remark_consults _ _ _) (fun _ => warnOf_consults names)]
      exact ih

/-- The interfaces are only looked at to warn of those that the host does not have. -/
theorem answer_warnUnknown
    (interfaces : List String) :
    (fun _ => ()) <$> answer (warnUnknown interfaces) h = listing h := by
  have hhost : answer (warnUnknown interfaces) h = (warnUnknown interfaces (.ofHost h)).1 := rfl
  rw [hhost, warnUnknown, host_bind_run, listing, show (Machine.ofHost h).host = h from rfl]
  rcases h.interfaces with (e | e | _ | _) | known
  · rfl
  · rfl
  · rfl
  · rfl
  · have hloop := answer_bind (h := h) (f := fun _ => pure (interfaces.filter (!known.contains ·)))
      (warnOf_consults (interfaces.filter (!known.contains ·))) (fun _ => .pure _)
    rw [answer_warnOf] at hloop
    exact congrArg (fun (o : Except Failure (List String)) => (fun _ => ()) <$> o) hloop

theorem answer_finish
    (names : List String × List String) :
    answer (finish o names) h =
      (fun _ => Policy.of o.allow names.1 names.2 o.baseline) <$> listing h := by
  rw [finish, answer_bind (warnUnknown_consults names.1) (fun _ => .pure _), ← answer_warnUnknown names.1]
  cases answer (warnUnknown names.1) h <;> rfl

/-- A policy is made of its destinations and its tunnel, where nothing keeps the interfaces from being
looked at. -/
theorem answer_build
    (o : Options) (h : Host) :
    answer (build o) h =
      answer (Source.extract o.sources) h >>= fun destinations =>
        sought o h >>= fun tunnel =>
          (fun _ => assembled o destinations tunnel) <$> listing h := by
  rw [build_eq, answer_bind (Source.extract_consults o.sources).any (rest_consults o)]
  cases hextract : answer (Source.extract o.sources) h with
  | error e =>
      rfl
  | ok destinations =>
      rw [ok_bind, ok_bind, answer_bind (lists_consults o destinations)
        (fun names => (finish_consults o names).any),
        answer_lists (Source.of_answer_extract hextract)]
      cases sought o h with
      | error e =>
          rfl
      | ok tunnel =>
          exact answer_finish _

end Answers

/-! ## Merged options -/

section Merged

variable {a b : Options} {h : Host}

theorem assembled_of
    (o : Options) (destinations : List String) (tunnel : Tunnel) :
    assembled o (Distinct.of destinations) tunnel = assembled o destinations tunnel := by
  have hsame : Distinct.of (Distinct.of destinations ++ named tunnel.server)
      = Distinct.of (destinations ++ named tunnel.server) := by
    rw [Distinct.of_append, Distinct.of_append, show Distinct.of (Distinct.of destinations)
      = Distinct.of destinations from Distinct.extend_of [] destinations]
  rw [assembled, assembled, hsame]

/-- The policy of merged options is made of the destinations of both and one tunnel. -/
theorem answer_build_merge
    (a b : Options) (h : Host) :
    answer (build (a.merge b)) h =
      answer (Source.extract a.sources) h >>= fun first =>
        answer (Source.extract b.sources) h >>= fun second =>
          sought (a.merge b) h >>= fun tunnel =>
            (fun _ => assembled (a.merge b) (first ++ second) tunnel) <$> listing h := by
  rw [answer_build, Options.merge_sources, Source.answer_extract_append]
  cases answer (Source.extract a.sources) h with
  | error e =>
      rfl
  | ok first =>
      cases answer (Source.extract b.sources) h with
      | error e =>
          rfl
      | ok second =>
          change (sought (a.merge b) h >>= fun tunnel => (fun _ =>
            assembled (a.merge b) (Distinct.of (first ++ second)) tunnel) <$> listing h) = _
          simp only [assembled_of]
          rfl

/-- Options that are merged with themselves ask for no more. -/
theorem assembled_merge_self
    (a : Options) (destinations : List String) (tunnel : Tunnel) :
    assembled (a.merge a) (destinations ++ destinations) tunnel = assembled a destinations tunnel := by
  have hallow : a.allow.or a.allow = a.allow := by
    simp [Permissions.or]
  have htwice : ∀ names more : List String,
      Distinct.of (names ++ names ++ more) = Distinct.of (names ++ more) := by
    intro names more
    have hself : Distinct.of (names ++ names) = Distinct.of names := by
      rw [Distinct.of_append]
      exact Distinct.extend_eq_self (fun _ hname => Distinct.mem_of.2 hname)
    rw [Distinct.of_append, hself, ← Distinct.of_append]
  have hbaseline : orIfEmpty a.baseline a.baseline = a.baseline := by
    unfold orIfEmpty
    split <;> rfl
  simp only [assembled, Options.merge, hallow, htwice, hbaseline]

theorem answer_build_merge_self
    (a : Options) (h : Host) :
    answer (build (a.merge a)) h = answer (build a) h := by
  have hsought : sought (a.merge a) h = sought a h := by
    simp [sought, Options.merge]
  rw [answer_build_merge, answer_build, hsought]
  cases answer (Source.extract a.sources) h with
  | error e =>
      rfl
  | ok destinations =>
      rw [ok_bind, ok_bind, ok_bind]
      refine bind_congr (fun tunnel => ?_)
      rw [assembled_merge_self]

/-- Where there is a policy it is made of destinations that have been extracted. -/
theorem exists_assembled
    {o : Options} {p : Policy}
    (hp : answer (build o) h = .ok p) :
    ∃ destinations tunnel, answer (Source.extract o.sources) h = .ok destinations
      ∧ sought o h = .ok tunnel
      ∧ p = assembled o destinations tunnel := by
  rw [answer_build] at hp
  obtain ⟨destinations, hextract, hrest⟩ := bind_eq_ok_iff.1 hp
  obtain ⟨tunnel, hsought, hend⟩ := bind_eq_ok_iff.1 hrest
  obtain ⟨-, -, hassembled⟩ := map_eq_ok_iff.1 hend
  exact ⟨destinations, tunnel, hextract, hsought, hassembled.symm⟩

/-- What either of two options has in its policy without a tunnel is in the policy of both. -/
theorem kept_of_merge
    {o : Options} {p q : Policy}
    (ho : o = a ∨ o = b)
    (hp : answer (build (a.merge b)) h = .ok p)
    (hq : answer (build { o with useRouting := false }) h = .ok q) :
    q.destinations ⊆ p.destinations ∧ q.interfaces ⊆ p.interfaces := by
  obtain ⟨destinations, tunnel, hextract, hsought, rfl⟩ := exists_assembled hq
  obtain rfl : ⟨"", ""⟩ = tunnel := Except.ok.inj hsought
  rw [answer_build_merge] at hp
  obtain ⟨first, hfirst, hp⟩ := bind_eq_ok_iff.1 hp
  obtain ⟨second, hsecond, hp⟩ := bind_eq_ok_iff.1 hp
  obtain ⟨met, -, hp⟩ := bind_eq_ok_iff.1 hp
  obtain ⟨-, -, rfl⟩ := map_eq_ok_iff.1 hp
  have hnone : named "" = [] := rfl
  have hdestinations : ∀ d ∈ destinations, d ∈ first ++ second := by
    intro d hd
    rcases ho with rfl | rfl
    · obtain rfl := Except.ok.inj (hextract.symm.trans hfirst)
      exact List.mem_append_left _ hd
    · obtain rfl := Except.ok.inj (hextract.symm.trans hsecond)
      exact List.mem_append_right _ hd
  have hinterfaces : ∀ i ∈ o.interfaces, i ∈ a.interfaces ++ b.interfaces := by
    intro i hi
    rcases ho with rfl | rfl
    · exact List.mem_append_left _ hi
    · exact List.mem_append_right _ hi
  refine ⟨fun d hd => ?_, fun i hi => ?_⟩
  · have hmem : d ∈ destinations := by
      simpa [assembled, Policy.of, hnone] using hd
    exact Distinct.mem_of.2 (List.mem_append_left _ (hdestinations d hmem))
  · have hmem : i ∈ o.interfaces := by
      simpa [assembled, Policy.of, hnone] using hi
    exact Distinct.mem_of.2 (List.mem_append_left _ (hinterfaces i hmem))

end Merged

/-- Where the sources of both options are extracted, and the tunnel is found out if one of them asks for
it, merged options have a policy, unless the listing of the host's interfaces fails for another reason
than that they cannot be listed. Its destinations are those of the first options, those of the second
ones, and the server of the tunnel that was asked for and is known; its interfaces likewise. Each is there
once, where it comes first, and either options' permissions hold. Where the sources of the first options
cannot be extracted, merged options fail alike. Options that are merged with themselves come to what they
come to alone, and merging takes away no destination and no interface that either options have without a
tunnel. -/
theorem build_merge
    (a b : Options) (h : Host) :
    (∀ first second tunnel,
        answer (Source.extract a.sources) h = .ok first →
        answer (Source.extract b.sources) h = .ok second →
        (a.useRouting = true ∨ b.useRouting = true → answer Tunnel.current h = .ok tunnel) →
        (∀ f, h.interfaces = .error f → f = .listing ∨ ∃ e, f = .system e) →
        let found (name : String) : List String :=
          if a.useRouting || b.useRouting then named name else []
        answer (build (a.merge b)) h = .ok (Policy.of (a.allow.or b.allow)
          (a.interfaces ++ b.interfaces ++ found tunnel.interface).eraseDups
          (first ++ second ++ found tunnel.server).eraseDups
          (orIfEmpty b.baseline a.baseline)))
      ∧ (∀ e, answer (Source.extract a.sources) h = .error e →
          answer (build (a.merge b)) h = .error e)
      ∧ answer (build (a.merge a)) h = answer (build a) h
      ∧ (∀ o p q, o = a ∨ o = b →
          answer (build (a.merge b)) h = .ok p →
          answer (build { o with useRouting := false }) h = .ok q →
          q.destinations ⊆ p.destinations ∧ q.interfaces ⊆ p.interfaces) := by
  refine ⟨?_, ?_, answer_build_merge_self a h, fun o p q => kept_of_merge⟩
  · intro first second tunnel hfirst hsecond htunnel hlisting found
    rw [answer_build_merge, hfirst, hsecond, ok_bind, ok_bind, listing_eq_ok hlisting,
      ← Distinct.of_eq_eraseDups, ← Distinct.of_eq_eraseDups]
    by_cases hrouting : (a.useRouting || b.useRouting) = true
    · have hsought : sought (a.merge b) h = .ok tunnel :=
        (if_pos hrouting).trans (htunnel (by simpa using hrouting))
      have hfound : ∀ name, found name = named name := fun _ => if_pos hrouting
      rw [hsought, hfound, hfound]
      rfl
    · have hsought : sought (a.merge b) h = .ok ⟨"", ""⟩ := if_neg hrouting
      have hfound : ∀ name, found name = named "" := fun _ => if_neg hrouting
      rw [hsought, hfound, hfound]
      rfl
  · intro e he
    rw [answer_build_merge, he, error_bind]

/-- A host whose resolver knows one name. -/
def namingHost : Host :=
  { Lock.obligingHost with
    resolver := [("vpn.example", .ok ["fe80::7%en0", "192.0.2.1", "192.0.2.9"])] }

def addressOptions : Options :=
  ⟨⟨true, false, false, false⟩, ["en0"], [⟨.address, "192.0.2.1"⟩], false, "/etc/first.conf"⟩

def nameOptions : Options :=
  ⟨⟨false, false, false, true⟩, ["utun3", "en0"], [⟨.host, "vpn.example"⟩], false, ""⟩

theorem namingHost_build :
    answer (build (addressOptions.merge nameOptions)) namingHost
      = .ok (Policy.of ⟨true, false, false, true⟩ ["en0", "utun3"]
          ["192.0.2.1", "fe80::7", "192.0.2.9"] "/etc/first.conf") :=
  (build_merge addressOptions nameOptions namingHost).1
    ["192.0.2.1"] ["fe80::7", "192.0.2.1", "192.0.2.9"] ⟨"", ""⟩
    rfl rfl (fun hrouting => absurd hrouting (by decide)) (fun _ hlisting => by contradiction)

/-- A host on which the user interrupts the run while the interfaces are listed. -/
def interruptedListing : Host :=
  { Lock.obligingHost with interfaces := .error .interrupt }

/-- An interruption of the listing leaves no policy, although there are no sources and no tunnel is asked
for. -/
theorem interruptedListing_not_build :
    answer (Source.extract Options.empty.sources) interruptedListing = .ok []
      ∧ (Options.empty.merge Options.empty).useRouting = false
      ∧ answer (build (Options.empty.merge Options.empty)) interruptedListing = .error .interrupted :=
  ⟨rfl, rfl, rfl⟩

end Policy
end Killswitch
