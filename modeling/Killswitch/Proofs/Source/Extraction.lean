import Killswitch.Proofs.Action.Pass
import Killswitch.Proofs.Policy.Asking

/-!
# The extraction of destinations

The sources are expanded into items one after the other, and the items of a source are resolved before
the next source is looked at. What has been found so far is kept without repetitions all along. All of
this comes to the same as one pass over the items of all sources whose results are joined, where only the
first occurrences are kept at the end.

**The reference.** A source is expanded into entries: its items, or the one failure that keeps them from
being read. Every entry contributes addresses or fails, and the first entry that fails ends the pass. An
entry asks the resolver for at most one name.

**Results.**
* `Endpoint.answer_ofPath`: the hosts that are read from a file or directory;
* `addressesOfItem_runs`, `resolveItems_gathers`, `resolveSources_gathers`: the runs of one item, of the items
  of a source, and of all sources;
* `answer_addressesOf`, `answer_extract`: the addresses of a name, and the destinations of sources, on a host;
* `exists_contribution_of_extract`: where a destination comes from;
* `extract_eq_reference`: the extraction agrees with the reference, in what it answers and in what it
  requests.
-/

namespace Killswitch

open Killswitch.Action

/-! ## Passes over lists -/

namespace Action

variable {α β : Type}

theorem answer_map
    {allowed : Event → Prop} {a : Action α}
    (f : α → β) (ha : Consults allowed a) (h : Host) :
    answer (f <$> a) h = f <$> answer a h := by
  rw [← bind_pure_comp, answer_bind ha (fun _ => .pure _)]
  cases answer a h <;> rfl

theorem answer_mapM
    {allowed : Event → Prop} {f : α → Action β}
    (hf : ∀ x, Consults allowed (f x)) (items : List α) (h : Host) :
    answer (items.mapM f) h = items.mapM (fun x => answer (f x) h) := by
  induction items with
  | nil =>
      rfl
  | cons x items ih =>
      have hrest : ∀ y, Consults allowed (items.mapM f >>= fun ys => pure (y :: ys)) :=
        fun y => (Consults.mapM hf items).bind (fun _ => .pure _)
      rw [List.mapM_cons, List.mapM_cons, answer_bind (hf x) hrest]
      refine bind_congr (fun y => ?_)
      rw [answer_bind (Consults.mapM hf items) (fun _ => .pure _), ih]
      rfl

end Action

/-! ## What files name -/

namespace Endpoint

/-- The failure of a file or directory whose hosts are not known. -/
def unread (text : String) : Failure :=
  .diagnostic (.of .destination text)

/-- The hosts that a file names, or why it cannot be read. -/
def hostsOfFile (h : Host) (path : Path) : Except Failure (List String) :=
  match h.read path with
  | .ok bytes => .ok (ofBytes bytes)
  | .error (.system e) => .error (unread ("cannot read " ++ path.toString ++ ": " ++ e.message))
  | .error f => .error f

/-- The hosts that a file names, or all files of a directory, or why they cannot be read. -/
def hostsAt (h : Host) (path : String) : Except Failure (List String) := do
  let path ← h.expand (Path.ofString path)
  match h.isDirectory path with
  | .error e => .error (.system e)
  | .ok false => hostsOfFile h path
  | .ok true =>
      match entries h path with
      | .error e => .error (unread ("cannot read directory " ++ path.toString ++ ": " ++ e.message))
      | .ok files => List.flatten <$> files.mapM (hostsOfFile h)

theorem answer_ofFile
    (path : Path) (h : Host) :
    answer (ofFile path) h = hostsOfFile h path := by
  have hhost : answer (ofFile path) h = (ofFile path (.ofHost h)).1 := rfl
  rw [hhost, ofFile, host_bind_run, hostsOfFile, show (Machine.ofHost h).host = h from rfl]
  cases h.read path with
  | ok bytes =>
      dsimp only
      split <;> rfl
  | error f =>
      cases f <;> rfl

/-- The hosts that are read from a file or directory. -/
theorem answer_ofPath
    (path : String) (h : Host) :
    answer (ofPath path) h = hostsAt h path := by
  have hhost : answer (ofPath path) h = (ofPath path (.ofHost h)).1 := rfl
  rw [hhost, ofPath, host_bind_run, hostsAt, show (Machine.ofHost h).host = h from rfl, bind_run,
    ofOutcome_run]
  cases h.expand (Path.ofString path) with
  | error f =>
      rfl
  | ok p =>
      rw [ok_bind]
      dsimp only
      rcases h.isDirectory p with e | _ | _
      · rfl
      · exact answer_ofFile p h
      · cases entries h p with
        | error e =>
            rfl
        | ok files =>
            have hfiles := answer_map List.flatten (Consults.mapM ofFile_consults files) h
            rw [answer_mapM ofFile_consults files h] at hfiles
            simp only [answer_ofFile] at hfiles
            exact hfiles

end Endpoint

namespace Source

/-! ## The reference -/

/-- A source as its items in order, or as the failure that keeps them from being read. -/
def expansion (h : Host) (s : Source) : List (Except Failure String) :=
  match s.kind with
  | .file =>
      match Endpoint.hostsAt h s.value with
      | .ok hosts => hosts.map .ok
      | .error e => [.error e]
  | _ => [.ok s.value]

def unresolved (name reason : String) : Failure :=
  .diagnostic (.of .destination ("cannot resolve " ++ name ++ ": " ++ reason))

/-- The addresses that the resolver has for a name, cut at the first percent sign, or why there are
none. -/
def resolution (h : Host) (name : String) : Except Failure (List String) :=
  match h.addresses name with
  | .ok [] => .error (unresolved name "no addresses returned")
  | .ok answer => .ok (answer.map (Text.before '%'))
  | .error (.system e) => .error (unresolved name e.message)
  | .error (.encoding text) => .error (unresolved name text)
  | .error f => .error (.ofFault f)

/-- What an entry contributes to the destinations: a literal address itself, and any other item what it is
resolved to. -/
def contribution (h : Host) : Except Failure String → Except Failure (List String)
  | .ok item => if Address.isLiteral item then .ok [item] else resolution h item
  | .error e => .error e

/-- The name that the resolver is asked for because of an entry. -/
def asked : Except Failure String → List String
  | .ok item => if Address.isLiteral item then [] else [item]
  | .error _ => []

/-- All that some entries contribute, in order. -/
def gathered (h : Host) (entries : List (Except Failure String)) : Except Failure (List String) :=
  List.flatten <$> entries.mapM (contribution h)

/-- The names that the resolver is asked for because of some entries: none is asked for after an entry that
fails. -/
def lookups (h : Host) : List (Except Failure String) → List String
  | [] => []
  | entry :: entries =>
      asked entry ++
        match contribution h entry with
        | .ok _ => lookups h entries
        | .error _ => []

/-- The first occurrences among all that some entries contribute. -/
def reference (h : Host) (entries : List (Except Failure String)) : Except Failure (List String) :=
  List.eraseDups <$> gathered h entries

section Reference

variable {h : Host} {item : String} {entries : List (Except Failure String)}

/-- The resolver gives no answer but those that it has. -/
theorem mem_resolver_of_addresses
    {answer : List String} (hanswer : h.addresses item = .ok answer) :
    (item, .ok answer) ∈ h.resolver := by
  unfold Host.addresses at hanswer
  split at hanswer
  · rename_i hlookup
    obtain ⟨front, rest, hresolver, -⟩ := List.lookup_eq_some_iff.1 hlookup
    rw [hresolver, hanswer]
    simp
  · contradiction

/-- What a name is resolved to is an answer of the resolver, cut at the first percent signs. -/
theorem exists_answer_of_resolution
    {addresses : List String}
    (hresolution : resolution h item = .ok addresses) :
    ∃ answer, h.addresses item = .ok answer ∧ addresses = answer.map (Text.before '%') := by
  unfold resolution at hresolution
  split at hresolution
  · contradiction
  · rename_i answer _ hanswer
    exact ⟨answer, hanswer, (Except.ok.inj hresolution).symm⟩
  · contradiction
  · contradiction
  · contradiction

theorem contribution_literal
    (hliteral : Address.isLiteral item = true) :
    contribution h (.ok item) = .ok [item] :=
  if_pos hliteral

theorem contribution_name
    (hname : ¬ Address.isLiteral item = true) :
    contribution h (.ok item) = resolution h item :=
  if_neg hname

theorem asked_literal
    (hliteral : Address.isLiteral item = true) :
    asked (.ok item) = [] :=
  if_pos hliteral

theorem asked_name
    (hname : ¬ Address.isLiteral item = true) :
    asked (.ok item) = [item] :=
  if_neg hname

theorem gathered_cons
    (entry : Except Failure String) :
    gathered h (entry :: entries) =
      contribution h entry >>= fun first => (first ++ ·) <$> gathered h entries := by
  rw [gathered, List.mapM_cons]
  cases contribution h entry with
  | error e =>
      rfl
  | ok first =>
      rw [ok_bind, ok_bind, gathered]
      cases entries.mapM (contribution h) <;> rfl

theorem gathered_singleton
    (entry : Except Failure String) :
    gathered h [entry] = contribution h entry := by
  rw [gathered_cons]
  cases contribution h entry with
  | error e =>
      rfl
  | ok first =>
      exact congrArg Except.ok (List.append_nil first)

theorem lookups_singleton
    (entry : Except Failure String) :
    lookups h [entry] = asked entry := by
  rw [lookups]
  cases contribution h entry with
  | error e =>
      exact List.append_nil _
  | ok first =>
      exact List.append_nil _

theorem gathered_append
    (more : List (Except Failure String)) :
    gathered h (entries ++ more) =
      gathered h entries >>= fun first => (first ++ ·) <$> gathered h more := by
  simp only [gathered, List.mapM_append]
  cases entries.mapM (contribution h) with
  | error e =>
      rfl
  | ok lists =>
      cases more.mapM (contribution h) with
      | error e =>
          rfl
      | ok others =>
          exact congrArg Except.ok List.flatten_append

theorem lookups_append
    (more : List (Except Failure String)) :
    lookups h (entries ++ more) =
      lookups h entries ++
        match gathered h entries with
        | .ok _ => lookups h more
        | .error _ => [] := by
  induction entries with
  | nil =>
      rfl
  | cons entry entries ih =>
      rw [List.cons_append, lookups, lookups, ih, gathered_cons]
      cases contribution h entry with
      | error e =>
          simp
      | ok first =>
          rw [ok_bind]
          cases gathered h entries <;> simp [Functor.map, Except.map]

end Reference

/-! ## Runs of the extraction -/

section Runs

variable {s : Standing}

theorem resolveName_runs (name : String) :
    Runs (resolveName name) s (.ok (s.host.addresses name)) s (Journal.ofCalls [.resolve name]) := by
  intro j
  exact ⟨[.call (.resolve name)], rfl, rfl⟩

/-- The addresses of a name are those that it is resolved to, each one once. -/
theorem addressesOf_runs (name : String) :
    Runs (addressesOf name) s (Distinct.of <$> resolution s.host name) s
      (Journal.ofCalls [.resolve name]) := by
  refine (Runs.bind (e := []) (resolveName_runs name) ?_).of_eq rfl (List.append_nil _)
  unfold resolution
  rcases s.host.addresses name with (e | e | e | e) | answer
  · exact .throw _
  · exact .throw _
  · exact .throw _
  · exact .throw _
  · cases answer with
    | nil =>
        exact Runs.bind_error (.throw _)
    | cons address rest =>
        have hsome : (Distinct.of ((address :: rest).map (Text.before '%'))).isEmpty = false := by
          rw [List.isEmpty_eq_false_iff_exists_mem]
          exact ⟨Text.before '%' address, by simp [Distinct.of]⟩
        dsimp only
        rw [hsome]
        exact Runs.bind (e := []) (Runs.remark _ _ _) (.pure _)

theorem addressesOfItem_runs (item : String) :
    Runs (addressesOfItem item) s (Distinct.of <$> contribution s.host (.ok item)) s
      (Journal.ofCalls ((asked (.ok item)).map .resolve)) := by
  unfold addressesOfItem
  by_cases hliteral : Address.isLiteral item = true
  · rw [if_pos hliteral, contribution_literal hliteral, asked_literal hliteral]
    exact .pure _
  · rw [if_neg hliteral, contribution_name hliteral, asked_name hliteral]
    exact addressesOf_runs item

/-- The destinations that are known once an item has been resolved. -/
def resolveItem (found : List String) (item : String) : Action (List String) := do
  return Distinct.extend found (← addressesOfItem item)

/-- The destinations that are known once a source has been resolved. -/
def resolveSource (found : List String) (s : Source) : Action (List String) := do
  (← s.items).foldlM resolveItem found

theorem extract_eq (sources : List Source) :
    extract sources = sources.foldlM resolveSource [] := by
  rfl

/-- An action goes through some entries: it adds what they contribute to what has been found, and asks the
resolver as they do. -/
def Gathers (s : Standing) (found : List String) (a : Action (List String))
    (entries : List (Except Failure String)) : Prop :=
  Runs a s (Distinct.extend found <$> gathered s.host entries) s
    (Journal.ofCalls ((lookups s.host entries).map .resolve))

/-- The entries that come first are gone through first, and those behind them only if none of them fails. -/
theorem Gathers.bind
    {found : List String} {a : Action (List String)} {f : List String → Action (List String)}
    {entries more : List (Except Failure String)}
    (ha : Gathers s found a entries)
    (hf : ∀ found, Gathers s found (f found) more) :
    Gathers s found (a >>= f) (entries ++ more) := by
  unfold Gathers at ha ⊢
  rw [gathered_append, lookups_append]
  cases hgathered : gathered s.host entries with
  | error e =>
      rw [hgathered] at ha
      exact ha.bind_error.of_eq rfl (by rw [List.append_nil])
  | ok addresses =>
      rw [hgathered] at ha
      refine (Runs.bind ha (hf _)).of_eq ?_ ?_
      · rw [ok_bind]
        cases gathered s.host more with
        | error e =>
            rfl
        | ok rest =>
            exact congrArg Except.ok (Distinct.extend_append found addresses rest).symm
      · rw [List.map_append, Journal.ofCalls_append]

theorem resolveItem_gathers (found : List String) (item : String) :
    Gathers s found (resolveItem found item) [.ok item] := by
  refine (Runs.map (f := Distinct.extend found) (addressesOfItem_runs item)).of_eq ?_ ?_
  · rw [gathered_singleton]
    cases contribution s.host (.ok item) with
    | error e =>
        rfl
    | ok addresses =>
        exact congrArg Except.ok (Distinct.extend_of found addresses)
  · rw [lookups_singleton]

/-- The items of a source are resolved in order, until one of them fails. -/
theorem resolveItems_gathers (found items : List String) :
    Gathers s found (items.foldlM resolveItem found) (items.map .ok) := by
  induction items generalizing found with
  | nil =>
      exact .pure _
  | cons item items ih =>
      rw [List.foldlM_cons]
      exact (resolveItem_gathers found item).bind ih

/-- The items of a source are known before any of them is resolved. -/
theorem resolveSource_gathers (found : List String) (source : Source) :
    Gathers s found (resolveSource found source) (expansion s.host source) := by
  have hitems : Runs source.items s (answer source.items s.host) s [] :=
    ((items_consults source).runs s).of_eq rfl
      (Journal.deeds_eq_nil ((items_consults source).entries_allowed s.host))
  have hread : ∀ items, answer source.items s.host = .ok items →
      expansion s.host source = items.map .ok →
      Gathers s found (resolveSource found source) (expansion s.host source) := by
    intro items hanswer hexpansion
    rw [hexpansion]
    exact Runs.bind (d := []) (hitems.of_eq hanswer rfl) (resolveItems_gathers found items)
  obtain ⟨kind, value⟩ := source
  cases kind with
  | address =>
      exact hread [value] rfl rfl
  | host =>
      exact hread [value] rfl rfl
  | file =>
      have hanswer : answer (items ⟨.file, value⟩) s.host = Endpoint.hostsAt s.host value :=
        Endpoint.answer_ofPath value s.host
      cases hhosts : Endpoint.hostsAt s.host value with
      | ok hosts =>
          exact hread hosts (hanswer.trans hhosts) (by simp [expansion, hhosts])
      | error e =>
          have hexpansion : expansion s.host ⟨.file, value⟩ = [.error e] := by
            simp [expansion, hhosts]
          rw [hexpansion]
          exact (hitems.of_eq (hanswer.trans hhosts) rfl).bind_error

/-- The sources are resolved in order, until one of them fails. -/
theorem resolveSources_gathers (found : List String) (sources : List Source) :
    Gathers s found (sources.foldlM resolveSource found) (sources.flatMap (expansion s.host)) := by
  induction sources generalizing found with
  | nil =>
      exact .pure _
  | cons source sources ih =>
      rw [List.foldlM_cons, List.flatMap_cons]
      exact (resolveSource_gathers found source).bind ih

theorem extract_runs (sources : List Source) :
    Runs (extract sources) s
      (Distinct.of <$> gathered s.host (sources.flatMap (expansion s.host))) s
      (Journal.ofCalls ((lookups s.host (sources.flatMap (expansion s.host))).map .resolve)) := by
  rw [extract_eq]
  exact resolveSources_gathers [] sources

end Runs

/-- The addresses of a name on a host. -/
theorem answer_addressesOf
    (name : String) (h : Host) :
    answer (addressesOf name) h = Distinct.of <$> resolution h name :=
  Runs.answer_eq (addressesOf_runs name)

/-- The destinations of sources on a host. -/
theorem answer_extract
    (sources : List Source) (h : Host) :
    answer (extract sources) h =
      Distinct.of <$> gathered h (sources.flatMap (expansion h)) :=
  Runs.answer_eq (extract_runs sources)

/-- Every destination is contributed by an item of some source. -/
theorem exists_contribution_of_extract
    {sources : List Source} {h : Host} {destinations : List String} {d : String}
    (hextract : answer (extract sources) h = .ok destinations) (hd : d ∈ destinations) :
    ∃ s ∈ sources, ∃ item list, .ok item ∈ expansion h s
      ∧ contribution h (.ok item) = .ok list ∧ d ∈ list := by
  rw [answer_extract] at hextract
  obtain ⟨all, hall, rfl⟩ := map_eq_ok_iff.1 hextract
  obtain ⟨lists, hlists, rfl⟩ := map_eq_ok_iff.1 hall
  obtain ⟨list, hlist, hin⟩ := List.mem_flatten.1 (Distinct.mem_of.1 hd)
  obtain ⟨entry, hentry, hcontribution⟩ := mem_of_mapM hlists hlist
  obtain ⟨s, hs, hmem⟩ := List.mem_flatMap.1 hentry
  cases entry with
  | error e =>
      contradiction
  | ok item =>
      exact ⟨s, hs, item, list, hmem, hcontribution, hin⟩

/-! ## Failures of the reference -/

/-- A source is a file or directory that cannot be read. -/
def Unreadable (s : Source) (h : Host) : Prop :=
  s.kind = .file ∧ ∃ e, Endpoint.hostsAt h s.value = .error e

/-- An item is no literal address, and the resolver fails on it or has no address for it. -/
def Unresolvable (h : Host) (item : String) : Prop :=
  Address.isLiteral item = false ∧ ((∃ f, h.addresses item = .error f) ∨ h.addresses item = .ok [])

section Failures

variable {h : Host} {entries : List (Except Failure String)}

theorem resolution_error_iff
    {name : String} :
    (∃ e, resolution h name = .error e) ↔ (∃ f, h.addresses name = .error f) ∨ h.addresses name = .ok [] := by
  unfold resolution
  rcases h.addresses name with (e | e | e | e) | answer
  · simp
  · simp
  · simp
  · simp
  · cases answer <;> simp

theorem contribution_error_iff
    {item : String} :
    (∃ e, contribution h (.ok item) = .error e) ↔ Unresolvable h item := by
  by_cases hliteral : Address.isLiteral item = true
  · rw [contribution_literal hliteral, Unresolvable, hliteral]
    simp
  · rw [contribution_name hliteral, resolution_error_iff, Unresolvable,
      Bool.eq_false_iff.2 hliteral]
    simp

/-- The sources of an expansion that has a failing entry. -/
theorem exists_failing_iff
    {sources : List Source} :
    (∃ entry ∈ sources.flatMap (expansion h), ∃ e, contribution h entry = .error e)
      ↔ ∃ s ∈ sources, s.Unreadable h ∨ ∃ item, .ok item ∈ expansion h s ∧ Unresolvable h item := by
  have hsource : ∀ s : Source, (∃ entry ∈ expansion h s, ∃ e, contribution h entry = .error e)
      ↔ s.Unreadable h ∨ ∃ item, .ok item ∈ expansion h s ∧ Unresolvable h item := by
    intro s
    constructor
    · rintro ⟨entry, hmem, hfails⟩
      cases entry with
      | ok item =>
          exact .inr ⟨item, hmem, contribution_error_iff.1 hfails⟩
      | error e =>
          left
          obtain ⟨kind, value⟩ := s
          cases kind with
          | address =>
              simp [expansion] at hmem
          | host =>
              simp [expansion] at hmem
          | file =>
              cases hhosts : Endpoint.hostsAt h value with
              | ok hosts =>
                  simp [expansion, hhosts] at hmem
              | error e =>
                  exact ⟨rfl, e, hhosts⟩
    · rintro (⟨hfile, e, he⟩ | ⟨item, hmem, hfails⟩)
      · exact ⟨.error e, by simp [expansion, hfile, he], e, rfl⟩
      · exact ⟨.ok item, hmem, contribution_error_iff.2 hfails⟩
  constructor
  · rintro ⟨entry, hmem, hfails⟩
    obtain ⟨s, hs, hentry⟩ := List.mem_flatMap.1 hmem
    exact ⟨s, hs, (hsource s).1 ⟨entry, hentry, hfails⟩⟩
  · rintro ⟨s, hs, hfails⟩
    obtain ⟨entry, hentry, he⟩ := (hsource s).2 hfails
    exact ⟨entry, List.mem_flatMap.2 ⟨s, hs, hentry⟩, he⟩

/-- Where every entry contributes, all of them are asked for. -/
theorem lookups_of_ok
    (hok : ∀ entry ∈ entries, ∃ addresses, contribution h entry = .ok addresses) :
    lookups h entries = entries.flatMap asked := by
  induction entries with
  | nil =>
      rfl
  | cons entry entries ih =>
      obtain ⟨addresses, haddresses⟩ := hok entry List.mem_cons_self
      rw [lookups, haddresses, List.flatMap_cons]
      exact congrArg _ (ih (fun other hother => hok other (List.mem_cons_of_mem _ hother)))

/-- The first entry that fails is the last one that is asked for. -/
theorem lookups_of_stop
    {entry : Except Failure String} {later : List (Except Failure String)} {e : Failure}
    (hok : ∀ other ∈ entries, ∃ addresses, contribution h other = .ok addresses)
    (hstop : contribution h entry = .error e) :
    lookups h (entries ++ entry :: later) = (entries ++ [entry]).flatMap asked := by
  have hgathered : ∃ addresses, gathered h entries = .ok addresses := by
    rcases mapM_ok_or_error (contribution h) entries with
      ⟨⟨lists, hlists⟩, -⟩ | ⟨earlier, other, rest, f, rfl, -, hfails, -⟩
    · exact ⟨lists.flatten, by rw [gathered, hlists]; rfl⟩
    · obtain ⟨addresses, haddresses⟩ := hok other (by simp)
      rw [hfails] at haddresses
      contradiction
  obtain ⟨addresses, hgathered⟩ := hgathered
  rw [lookups_append, hgathered, lookups, hstop, lookups_of_ok hok]
  simp

theorem reference_eq (entries : List (Except Failure String)) :
    reference h entries = Distinct.of <$> gathered h entries := by
  rw [reference, funext Distinct.of_eq_eraseDups]

/-- The reference has each address once and every entry contributes, or it fails as the first entry that
does not. -/
theorem reference_ok_or_error
    (h : Host) (entries : List (Except Failure String)) :
    (∃ addresses, reference h entries = .ok addresses
        ∧ addresses.Nodup
        ∧ ∀ entry ∈ entries, ∃ list, contribution h entry = .ok list)
      ∨ ∃ earlier entry later e, entries = earlier ++ entry :: later
          ∧ (∀ other ∈ earlier, ∃ list, contribution h other = .ok list)
          ∧ contribution h entry = .error e
          ∧ reference h entries = .error e := by
  rw [reference_eq, gathered]
  rcases mapM_ok_or_error (contribution h) entries with
    ⟨⟨lists, hlists⟩, hok⟩ | ⟨earlier, entry, later, e, hentries, hok, hstop, hfails⟩
  · refine .inl ⟨Distinct.of lists.flatten, by rw [hlists]; rfl, ?_, hok⟩
    exact Distinct.nodup_extend List.nodup_nil _
  · exact .inr ⟨earlier, entry, later, e, hentries, hok, hstop, by rw [hfails]; rfl⟩

end Failures

/-- The extraction agrees with the reference. It fails if and only if some file cannot be read, or some
item that is no literal address cannot be resolved or has no address. Else each destination is there
once, and the names that are asked for are all items that are no literal addresses. Where it fails, it
fails as the first entry that fails, and asks for no name after that entry. -/
theorem extract_eq_reference
    (sources : List Source) (m : Machine) :
    let h := m.host
    let entries := sources.flatMap (expansion h)
    ∃ entered : Journal,
      extract sources m = (reference h entries, { m with journal := m.journal ++ entered })
        ∧ ((∃ e, reference h entries = .error e)
            ↔ ∃ s ∈ sources, s.Unreadable h ∨ ∃ item, .ok item ∈ expansion h s ∧ Unresolvable h item)
        ∧ (∀ addresses, reference h entries = .ok addresses →
            addresses.Nodup ∧ entered.calls = (entries.flatMap asked).map .resolve)
        ∧ (∀ e, reference h entries = .error e →
            ∃ earlier entry later, entries = earlier ++ entry :: later
              ∧ (∀ other ∈ earlier, ∃ addresses, contribution h other = .ok addresses)
              ∧ contribution h entry = .error e
              ∧ entered.calls = ((earlier ++ [entry]).flatMap asked).map .resolve) := by
  intro h entries
  obtain ⟨entered, hrun, hdeeds⟩ := extract_runs (s := m.standing) sources m.journal
  have hcalls : entered.calls = (lookups h entries).map .resolve := by
    rw [← Journal.calls_deeds, hdeeds, Journal.calls_ofCalls]
    rfl
  refine ⟨entered, ?_, ?_⟩
  · rw [reference_eq]
    exact hrun
  rw [← exists_failing_iff, hcalls]
  rcases reference_ok_or_error h entries with
    ⟨addresses, hreference, hnodup, hok⟩ | ⟨earlier, entry, later, e, hentries, hok, hstop, hreference⟩
  · refine ⟨⟨fun ⟨e, he⟩ => ?_, fun ⟨entry, hmem, e, he⟩ => ?_⟩, fun others hothers => ?_, fun e he => ?_⟩
    · rw [hreference] at he
      contradiction
    · obtain ⟨list, hlist⟩ := hok entry hmem
      rw [he] at hlist
      contradiction
    · obtain rfl := Except.ok.inj (hreference.symm.trans hothers)
      exact ⟨hnodup, congrArg _ (lookups_of_ok hok)⟩
    · rw [hreference] at he
      contradiction
  · have hmem : entry ∈ entries := by
      rw [hentries]
      simp
    refine ⟨⟨fun _ => ⟨entry, hmem, e, hstop⟩, fun _ => ⟨e, hreference⟩⟩, fun others hothers => ?_,
      fun f hf => ?_⟩
    · rw [hreference] at hothers
      contradiction
    · obtain rfl := Except.error.inj (hreference.symm.trans hf)
      refine ⟨earlier, entry, later, hentries, hok, hstop, ?_⟩
      rw [hentries, lookups_of_stop hok hstop]

end Source
end Killswitch
