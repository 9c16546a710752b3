import Killswitch.CommandLine.Command
import Killswitch.Proofs.Action.Consult

/-!
# What is asked for a policy

Before there is a policy the host is only asked: its files are read, names are resolved, and the routing
table is listed if the options say so. Names are resolved in the course of the extraction, which comes
before the routing table, and nothing else is requested.

**Results.**
* `Event.RemarkOf`, `Event.Quiet`: the remarks of one part of the program, and whatever does not count outside;
* `extract_extracts`, `extract_consults`: the extraction of destinations requests nothing but names to be
  resolved;
* `current_searches`, `deeds_current`: the tunnel is found by listing the routing table, once;
* `build_consults`, `policyOf_consults`: a policy is built by asking the host;
* `deeds_build`: the requests of a policy in their order.
-/

namespace Killswitch

open Killswitch.Action

/-! ## Kinds of entries -/

/-- An entry that does not count outside of the program. -/
def Event.Quiet (e : Event) : Prop :=
  e.isDeed = false

/-- An entry that is quiet or asks for the addresses of a name. -/
def Event.MayResolve (e : Event) : Prop :=
  e.Quiet ∨ ∃ name, e = .call (.resolve name)

/-- A remark of the part of the program with the given name. -/
def Event.RemarkOf (origin : String) (e : Event) : Prop :=
  ∃ level text, e = .remark ⟨level, origin, text⟩

theorem Event.RemarkOf.quiet
    {origin : String} {e : Event} (h : e.RemarkOf origin) :
    e.Quiet := by
  obtain ⟨level, text, rfl⟩ := h
  rfl

/-- Any entry at all. -/
def Event.Any (_ : Event) : Prop :=
  True

namespace Journal

theorem deeds_eq_nil
    {j : Journal} (h : ∀ e ∈ j, e.Quiet) :
    j.deeds = [] := by
  refine List.filter_eq_nil_iff.2 ?_
  intro e he
  simp [show e.isDeed = false from h e he]

/-- The deeds among entries that resolve names at most. -/
theorem deeds_eq_resolve
    {j : Journal} (h : ∀ e ∈ j, e.MayResolve) :
    ∃ names : List String, j.deeds = ofCalls (names.map .resolve) := by
  induction j with
  | nil =>
      exact ⟨[], rfl⟩
  | cons e j ih =>
      obtain ⟨names, hnames⟩ := ih (fun e he => h e (List.mem_cons_of_mem _ he))
      have hcons : deeds (e :: j) = deeds [e] ++ deeds j :=
        deeds_append [e] j
      rcases h e List.mem_cons_self with hquiet | ⟨name, rfl⟩
      · refine ⟨names, ?_⟩
        rw [hcons, deeds_eq_nil (j := [e]) (by simpa using hquiet), hnames]
        rfl
      · exact ⟨name :: names, by rw [hcons, hnames]; rfl⟩

end Journal

namespace Action

variable {α : Type} {allowed : Event → Prop}

theorem Consults.any
    {a : Action α} (ha : Consults allowed a) :
    Consults Event.Any a :=
  ha.mono (fun _ _ => trivial)

theorem Consults.mayResolve
    {a : Action α} (ha : Consults Event.Quiet a) :
    Consults Event.MayResolve a :=
  ha.mono (fun _ he => .inl he)

theorem Consults.quiet
    {origin : String} {a : Action α} (ha : Consults (Event.RemarkOf origin) a) :
    Consults Event.Quiet a :=
  ha.mono (fun _ he => he.quiet)

theorem remark_remarks (level : Level) (origin text : String) :
    Consults (Event.RemarkOf origin) (remark level origin text) :=
  .enter ⟨level, text, rfl⟩

theorem remark_consults (level : Level) (origin text : String) :
    Consults Event.Quiet (remark level origin text) :=
  (remark_remarks level origin text).quiet

theorem notice_consults (text : String) :
    Consults Event.Quiet (notice text) :=
  .enter rfl

end Action

/-! ## Destinations -/

namespace Endpoint

theorem ofFile_remarks (path : Path) :
    Consults (Event.RemarkOf origin) (ofFile path) := by
  refine Consults.host.bind (fun h => ?_)
  cases h.read path with
  | ok bytes =>
      dsimp only
      split
      · exact (remark_remarks _ _ _).bind (fun _ => .pure _)
      · exact .pure _
  | error f =>
      cases f <;> exact .throw _

theorem ofFile_consults (path : Path) :
    Consults Event.Quiet (ofFile path) :=
  (ofFile_remarks path).quiet

theorem ofPath_remarks (path : String) :
    Consults (Event.RemarkOf origin) (ofPath path) := by
  refine Consults.host.bind (fun h => Consults.bind (.ofOutcome _) (fun p => ?_))
  rcases h.isDirectory p with e | _ | _
  · exact .throw _
  · exact ofFile_remarks p
  · cases entries h p with
    | error e =>
        exact .throw _
    | ok files =>
        exact (Consults.mapM ofFile_remarks files).map _

theorem ofPath_consults (path : String) :
    Consults Event.Quiet (ofPath path) :=
  (ofPath_remarks path).quiet

end Endpoint

namespace Source

/-- An entry of the extraction: a remark about a file or a name, or a name to be resolved. -/
def Extracts (e : Event) : Prop :=
  e.RemarkOf Endpoint.origin ∨ ∃ name, e = .call (.resolve name)

theorem Extracts.mayResolve
    {e : Event} (h : Extracts e) :
    e.MayResolve :=
  h.imp_left Event.RemarkOf.quiet

theorem addressesOf_extracts (name : String) :
    Consults Extracts (addressesOf name) := by
  have hask : Consults Extracts (resolveName name) :=
    (Consults.enter (.inr ⟨name, rfl⟩)).bind (fun _ => Consults.host.map _)
  refine hask.bind (fun answer => ?_)
  rcases answer with (e | e | e | e) | addresses
  · exact .throw _
  · exact .throw _
  · exact .throw _
  · exact .throw _
  · have hremark : ∀ text, Consults Extracts (remark .debug Endpoint.origin text) :=
      fun text => (remark_remarks _ _ text).mono (fun _ => .inl)
    dsimp only
    split
    · exact (Consults.throw _).bind (fun _ => (hremark _).bind (fun _ => .pure _))
    · exact (hremark _).bind (fun _ => .pure _)

theorem addressesOfItem_extracts (item : String) :
    Consults Extracts (addressesOfItem item) := by
  unfold addressesOfItem
  split
  · exact .pure _
  · exact addressesOf_extracts item

theorem items_remarks (s : Source) :
    Consults (Event.RemarkOf Endpoint.origin) s.items := by
  unfold items
  split
  · exact Endpoint.ofPath_remarks _
  · exact .pure _

theorem items_consults (s : Source) :
    Consults Event.Quiet s.items :=
  (items_remarks s).quiet

theorem extract_extracts (sources : List Source) :
    Consults Extracts (extract sources) :=
  .foldlM (fun _ s => ((items_remarks s).mono (fun _ => .inl)).bind
    (fun items => .foldlM (fun _ item => (addressesOfItem_extracts item).map _) _ items)) _ _

/-- The extraction of destinations requests nothing but names to be resolved. -/
theorem extract_consults (sources : List Source) :
    Consults Event.MayResolve (extract sources) :=
  (extract_extracts sources).mono (fun _ he => he.mayResolve)

end Source

/-! ## The tunnel -/

namespace Tunnel

theorem ofTable_remarks (text : String) :
    Consults (Event.RemarkOf origin) (ofTable text) := by
  refine Consults.bind (.ofOutcome _) (fun routes => ?_)
  have hrest := fun shown (tunnel : Tunnel) =>
    (remark_remarks .debug origin shown).bind (fun _ => .pure tunnel)
  dsimp only
  split
  · split
    · exact (remark_remarks _ _ _).bind (fun _ => hrest _ _)
    · exact hrest _ _
  · exact hrest _ _

theorem ofTable_consults (text : String) :
    Consults Event.Quiet (ofTable text) :=
  (ofTable_remarks text).quiet

def listing : Call :=
  .run routesCommand (some routesLimit)

/-- What a listing of the routing table shows. -/
def ofListing (run : Run) : Action Tunnel :=
  match run with
  | .timedOut _ =>
      unknown ("cannot read routing table: Command '["
        ++ Text.joinWith ", " (Action.routesCommand.map Text.quote) ++ "]' timed out after "
        ++ toString Action.routesLimit ++ " seconds")
  | .fault (.system e) => unknown ("cannot read routing table: " ++ e.message)
  | .fault f => throw (.ofFault f)
  | .ended code output errors =>
      if code ≠ 0 then
        unknown ("netstat exited with status " ++ toString code ++ ": "
          ++ String.ofList (Text.trim errors.toList))
      else ofTable output

theorem current_eq :
    current = listRoutes >>= ofListing := by
  rfl

theorem ofListing_remarks (run : Run) :
    Consults (Event.RemarkOf origin) (ofListing run) := by
  rcases run with ⟨code, output, errors⟩ | captured | e | e | e | e
  · unfold ofListing
    dsimp only
    split
    · exact .throw _
    · exact ofTable_remarks output
  · exact .throw _
  · exact .throw _
  · exact .throw _
  · exact .throw _
  · exact .throw _

theorem ofListing_consults (run : Run) :
    Consults Event.Quiet (ofListing run) :=
  (ofListing_remarks run).quiet

/-- An entry of the search for the tunnel: the request for the routing table, or a remark about it. -/
def Searches (e : Event) : Prop :=
  e = .call listing ∨ e.RemarkOf origin

theorem listRoutes_searches :
    Consults Searches listRoutes :=
  (Consults.enter (.inl rfl)).bind (fun _ => Consults.host.map _)

theorem listRoutes_consults :
    Consults Event.Any listRoutes :=
  listRoutes_searches.any

theorem current_searches :
    Consults Searches current :=
  listRoutes_searches.bind (fun run => (ofListing_remarks run).mono (fun _ => .inr))

theorem current_consults :
    Consults Event.Any current :=
  current_searches.any

/-- The tunnel is found by listing the routing table, once. -/
theorem deeds_current (h : Host) :
    (entries current h).deeds = Journal.ofCalls [listing] := by
  have hlist : entries listRoutes h = [.call listing] := by
    rfl
  rw [current_eq, entries_bind listRoutes_consults (fun run => (ofListing_consults run).any), hlist]
  cases answer listRoutes h with
  | error e =>
      rfl
  | ok run =>
      rw [Journal.deeds_append, Journal.deeds_eq_nil ((ofListing_consults run).entries_allowed h)]
      rfl

end Tunnel

/-! ## Policies -/

namespace Policy

/-- Warns of each of some interfaces that the host does not have. -/
def warnOf (names : List String) : Action PUnit :=
  forIn names PUnit.unit fun name _ => do
    remark .warning origin ("Interface " ++ name ++ " does not exist on this host")
    return .yield PUnit.unit

theorem warnOf_cons (name : String) (names : List String) :
    warnOf (name :: names) =
      remark .warning origin ("Interface " ++ name ++ " does not exist on this host") >>= fun _ =>
        warnOf names := by
  rw [warnOf, List.forIn_cons]
  rfl

theorem warnOf_consults (names : List String) :
    Consults Event.Quiet (warnOf names) :=
  Consults.forIn (fun _ => remark_consults _ _ _) names

theorem warnUnknown_consults (interfaces : List String) :
    Consults Event.Quiet (warnUnknown interfaces) := by
  refine Consults.host.bind (fun h => ?_)
  rcases h.interfaces with (e | e | _ | _) | known
  · exact (remark_consults _ _ _).bind (fun _ => .pure _)
  · exact .throw _
  · exact (remark_consults _ _ _).bind (fun _ => .pure _)
  · exact .throw _
  · exact (warnOf_consults _).bind (fun _ => .pure _)

/-- The lists of a policy once the tunnel is known. -/
def addTunnel (interfaces destinations : List String) (tunnel : Tunnel) :
    Action (List String × List String) := do
  if tunnel.interface = "" ∧ tunnel.server = "" then
    remark .warning origin "No VPN tunnel found in the routing table"
  return (addName interfaces tunnel.interface, addName destinations tunnel.server)

theorem withTunnel_eq (interfaces destinations : List String) :
    withTunnel interfaces destinations = Tunnel.current >>= addTunnel interfaces destinations := by
  rfl

theorem addTunnel_consults (interfaces destinations : List String) (tunnel : Tunnel) :
    Consults Event.Quiet (addTunnel interfaces destinations tunnel) := by
  unfold addTunnel
  dsimp only
  split
  · exact (remark_consults _ _ _).bind (fun _ => .pure _)
  · exact .pure _

/-- The interfaces and destinations of a policy, with those of the tunnel if it is asked for. -/
def lists (o : Options) (destinations : List String) : Action (List String × List String) :=
  if o.useRouting then withTunnel (Distinct.of o.interfaces) destinations
  else pure (Distinct.of o.interfaces, destinations)

/-- The policy with the given lists, after the interfaces have been looked up. -/
def finish (o : Options) (names : List String × List String) : Action Policy :=
  warnUnknown names.1 >>= fun _ => pure (Policy.of o.allow names.1 names.2 o.baseline)

theorem build_eq (o : Options) :
    build o = Source.extract o.sources >>= fun destinations =>
      lists o destinations >>= finish o := by
  unfold build
  congr 1
  funext destinations
  unfold lists
  split
  · rfl
  · rfl

theorem lists_consults (o : Options) (destinations : List String) :
    Consults Event.Any (lists o destinations) := by
  unfold lists
  split
  · rw [withTunnel_eq]
    exact Tunnel.current_consults.bind (fun t => (addTunnel_consults _ _ t).any)
  · exact .pure _

theorem finish_consults (o : Options) (names : List String × List String) :
    Consults Event.Quiet (finish o names) :=
  (warnUnknown_consults names.1).bind (fun _ => .pure _)

theorem rest_consults (o : Options) (destinations : List String) :
    Consults Event.Any (lists o destinations >>= finish o) :=
  (lists_consults o destinations).bind (fun names => (finish_consults o names).any)

/-- A policy is built by asking the host. -/
theorem build_consults (o : Options) :
    Consults Event.Any (build o) := by
  rw [build_eq]
  exact (Source.extract_consults o.sources).any.bind (rest_consults o)

/-- The request for the routing table, if the options make it. -/
def listings (o : Options) : List Call :=
  if o.useRouting then [Tunnel.listing] else []

theorem deeds_lists (o : Options) (destinations : List String) (h : Host) :
    (entries (lists o destinations) h).deeds = Journal.ofCalls (listings o) := by
  unfold lists listings
  split
  · rw [withTunnel_eq,
      entries_bind Tunnel.current_consults (fun t => (addTunnel_consults _ _ t).any),
      Journal.deeds_append, Tunnel.deeds_current]
    cases answer Tunnel.current h with
    | error e =>
        simp [Journal.deeds]
    | ok t =>
        simp [Journal.deeds_eq_nil ((addTunnel_consults _ _ t).entries_allowed h)]
  · rfl

theorem deeds_rest (o : Options) (destinations : List String) (h : Host) :
    (entries (lists o destinations >>= finish o) h).deeds = Journal.ofCalls (listings o) := by
  rw [entries_bind (lists_consults o destinations) (fun names => (finish_consults o names).any),
    Journal.deeds_append, deeds_lists]
  cases answer (lists o destinations) h with
  | error e =>
      simp [Journal.deeds]
  | ok names =>
      simp [Journal.deeds_eq_nil ((finish_consults o names).entries_allowed h)]

/-- The requests that are made for a policy: some names are resolved, and then the routing table is listed
if the options say so. Where a name cannot be resolved the table is not listed any more. -/
theorem deeds_build (o : Options) (h : Host) :
    ∃ names : List String,
      (entries (build o) h).deeds <+: Journal.ofCalls (names.map .resolve ++ listings o)
        ∧ ((answer (Source.extract o.sources) h).isOk →
            (entries (build o) h).deeds = Journal.ofCalls (names.map .resolve ++ listings o)) := by
  obtain ⟨names, hnames⟩ :=
    Journal.deeds_eq_resolve ((Source.extract_consults o.sources).entries_allowed h)
  refine ⟨names, ?_⟩
  rw [build_eq, entries_bind (Source.extract_consults o.sources).any (rest_consults o),
    Journal.deeds_append, hnames, Journal.ofCalls_append]
  cases answer (Source.extract o.sources) h with
  | error e =>
      exact ⟨by simp [Journal.deeds], by simp [Except.isOk, Except.toBool]⟩
  | ok destinations =>
      simp [deeds_rest]

/-- Where there is a policy, all sources have been resolved and the tunnel has been looked up. -/
theorem answer_build_ok
    {o : Options} {h : Host} {p : Policy}
    (hp : answer (build o) h = .ok p) :
    ∃ destinations names,
      answer (Source.extract o.sources) h = .ok destinations
        ∧ answer (lists o destinations) h = .ok names
        ∧ answer (finish o names) h = .ok p := by
  rw [build_eq, answer_bind (Source.extract_consults o.sources).any (rest_consults o)] at hp
  cases hd : answer (Source.extract o.sources) h with
  | error e =>
      simp [hd] at hp
  | ok destinations =>
      rw [hd, ok_bind, answer_bind (lists_consults o destinations)
        (fun names => (finish_consults o names).any)] at hp
      cases hn : answer (lists o destinations) h with
      | error e =>
          simp [hn] at hp
      | ok names =>
          rw [hn, ok_bind] at hp
          exact ⟨destinations, names, rfl, hn, hp⟩

end Policy

/-! ## Policies of the command line -/

namespace CommandLine

theorem readPolicy_consults (path : Path) (spelling : String) :
    Consults Event.Quiet (readPolicy path spelling) :=
  Consults.host.bind (fun _ => Consults.bind (.ofOutcome _)
    (fun _ => (remark_consults _ _ _).bind (fun _ => .pure _)))

/-- The policy file is only read. -/
theorem fileOptions_consults (c : Context) :
    Consults Event.Quiet (fileOptions c) := by
  unfold fileOptions
  split
  · exact (readPolicy_consults _ _).bind (fun _ => .pure _)
  · exact .pure _

/-- What the policy file asks for, or nothing where there is no policy file. -/
def documentOf (c : Context) (h : Host) : Except Failure Options :=
  match c.policyPath with
  | some (path, spelling) => (PolicyFile.read h path).mapError (aboutFile spelling)
  | none => .ok .empty

/-- The options of the policy file are those of its document, with a baseline. -/
theorem answer_fileOptions (c : Context) (h : Host) :
    answer (fileOptions c) h = (documentOf c h).map (fun document =>
      { document with baseline := orIfEmpty document.baseline c.settings.baseline }) := by
  unfold fileOptions documentOf
  cases c.policyPath with
  | none =>
      rfl
  | some named =>
      obtain ⟨path, spelling⟩ := named
      have hread : answer (readPolicy path spelling) h
          = (PolicyFile.read h path).mapError (aboutFile spelling) := by
        rw [answer, readPolicy, host_bind_run, show (Machine.ofHost h).host = h from rfl]
        cases PolicyFile.read h path <;> rfl
      dsimp only
      rw [answer_bind (readPolicy_consults path spelling) (fun _ => .pure _), hread]
      cases PolicyFile.read h path <;> rfl

/-- The options that the policy file and the command line ask for. -/
def requested (c : Context) (f : Flags) (h : Host) : Except Failure Options := do
  let options ← answer (fileOptions c) h
  return options.merge (.ofFlags f)

theorem policyOf_consults (c : Context) (f : Flags) :
    Consults Event.Any (policyOf c f) :=
  (fileOptions_consults c).any.bind (fun _ => Policy.build_consults _)

theorem answer_policyOf (c : Context) (f : Flags) (h : Host) :
    answer (policyOf c f) h = requested c f h >>= fun o => answer (Policy.build o) h := by
  unfold policyOf requested
  rw [answer_bind (fileOptions_consults c).any (fun _ => Policy.build_consults _)]
  cases answer (fileOptions c) h <;> rfl

/-- What is requested for a policy is requested for its options. -/
theorem deeds_policyOf (c : Context) (f : Flags) (h : Host) :
    (entries (policyOf c f) h).deeds =
      match requested c f h with
      | .ok o => (entries (Policy.build o) h).deeds
      | .error _ => [] := by
  have hquiet := Journal.deeds_eq_nil ((fileOptions_consults c).entries_allowed h)
  unfold policyOf requested
  rw [entries_bind (fileOptions_consults c).any (fun _ => Policy.build_consults _),
    Journal.deeds_append, hquiet]
  cases answer (fileOptions c) h <;> rfl

/-- The request for the routing table, if the policy file or the command line makes it. -/
def listings (c : Context) (f : Flags) (h : Host) : List Call :=
  match requested c f h with
  | .ok o => Policy.listings o
  | .error _ => []

/-- The requests that are made for a policy of the command line. All of them are made where there is a
policy. -/
theorem calls_policyOf (c : Context) (f : Flags) (h : Host) :
    ∃ (names : List String) (calls : List Call),
      (entries (policyOf c f) h).deeds = Journal.ofCalls calls
        ∧ calls <+: names.map .resolve ++ listings c f h
        ∧ (∀ p, answer (policyOf c f) h = .ok p → calls = names.map .resolve ++ listings c f h) := by
  rw [deeds_policyOf, answer_policyOf, listings]
  cases requested c f h with
  | error e =>
      exact ⟨[], [], rfl, List.nil_prefix, fun _ hp => by contradiction⟩
  | ok o =>
      obtain ⟨names, hleads, hall⟩ := Policy.deeds_build o h
      obtain ⟨calls, hcalls, hdeeds⟩ := List.prefix_map_iff.1 hleads
      refine ⟨names, calls, hdeeds, hcalls, fun p hp => ?_⟩
      obtain ⟨destinations, -, hextract, -⟩ := Policy.answer_build_ok hp
      have hsame := hdeeds.symm.trans (hall (by rw [hextract]; rfl))
      exact (List.map_inj_right (by simp)).1 hsame

end CommandLine
end Killswitch
