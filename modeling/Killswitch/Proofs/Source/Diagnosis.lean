import Killswitch.Proofs.Lock.Check
import Killswitch.Proofs.Source.Extraction

/-!
# Which failures of the extraction are diagnostics

The extraction makes a diagnostic of what goes wrong when a file is opened, a directory is listed, or a
name is resolved. It has no guard where a home directory is looked up, where a path is asked whether it
leads to a directory, and where a path that no file can have is opened. These failures are passed on as they
come from below, as are an interruption of the resolver and a fault that is none of a resolver.

**The failures that are passed on.** A source is overlooked with a failure if its path fails in one of these
ways, or if one of its names does after all items before it were resolved. The extraction passes on the
failure of the first source that does not contribute, if it is overlooked.

**Results.**
* `Endpoint.hostsAt_error_iff`, `contribution_item_error_iff`: the failures of one path, and of one item;
* `gathered_error_iff`, `gathered_flatMap_error_iff`: the first entry, and the first source, that fails;
* `extract_fails_closed_unless_overlooked`: all other failures say which destination is not known;
* `shutHost_failure_passed`: a directory that may not be looked into.
-/

namespace Killswitch

open Killswitch.Action

/-- A failure that says which destination is not known. -/
def Failure.IsDestination (f : Failure) : Prop :=
  ∃ text, f = .diagnostic (.of .destination text)

/-! ## Paths -/

namespace Endpoint

variable {h : Host} {path : String} {p : Path} {f : Failure}

/-- A path fails with what is no diagnostic: the home that it starts with is not known, it cannot be asked
what it leads to, or it has a null character. -/
inductive Overlooked (h : Host) (path : String) : Failure → Prop
  | home {f : Failure} :
      h.expand (Path.ofString path) = .error f → Overlooked h path f
  | look {p : Path} {e : SystemError} :
      h.expand (Path.ofString path) = .ok p → h.isDirectory p = .error e → Overlooked h path (.system e)
  | null {p : Path} :
      h.expand (Path.ofString path) = .ok p → Host.hasNull p = true → Overlooked h path .nullInPath

theorem not_isDestination_of_expand
    (hfail : h.expand p = .error f) :
    ¬ f.IsDestination := by
  rintro ⟨text, rfl⟩
  unfold Host.expand at hfail
  split at hfail
  · contradiction
  · split at hfail
    · exact absurd (Except.error.inj hfail) (by simp)
    · exact absurd (Except.error.inj hfail) (by simp)

theorem hostsOfFile_of_null
    (hnull : Host.hasNull p = true) :
    hostsOfFile h p = .error .nullInPath := by
  rw [hostsOfFile, Host.read, if_pos hnull]

theorem hostsOfFile_error
    (hnull : Host.hasNull p = false)
    (hfail : hostsOfFile h p = .error f) :
    f.IsDestination := by
  rw [hostsOfFile, Host.read, hnull] at hfail
  cases hread : h.files.read p.toString (h.place p) with
  | ok bytes =>
      rw [hread] at hfail
      contradiction
  | error e =>
      rw [hread] at hfail
      exact ⟨_, (Except.error.inj hfail).symm⟩

/-- No file that is read from a directory has a null character in its path. -/
theorem hasNull_of_mem_entries
    {files : List Path} {file : Path}
    (hfiles : entries h p = .ok files) (hmem : file ∈ files) :
    Host.hasNull file = false := by
  obtain ⟨names, -, hrest⟩ := bind_eq_ok_iff.1 hfiles
  obtain ⟨kept, hkept, hchildren⟩ := bind_eq_ok_iff.1 hrest
  obtain rfl := Except.ok.inj hchildren
  obtain ⟨name, hname, rfl⟩ := List.mem_map.1 hmem
  have hfile : h.isFile (p.child name) = .ok true :=
    mem_of_filterM hkept (List.mem_filter.1 (List.mem_mergeSort.1 hname)).1
  cases hnull : Host.hasNull (p.child name) with
  | false =>
      rfl
  | true =>
      rw [Host.isFile, Host.ask, if_pos hnull] at hfile
      exact absurd (Except.ok.inj hfile) (by decide)

theorem hostsOfFile_mapM_error
    {files : List Path}
    (hfiles : entries h p = .ok files)
    (hfail : files.mapM (hostsOfFile h) = .error f) :
    f.IsDestination := by
  obtain ⟨earlier, file, later, rfl, -, hfile⟩ := mapM_eq_error_iff.1 hfail
  have hmem : file ∈ earlier ++ file :: later :=
    List.mem_append_right earlier List.mem_cons_self
  exact hostsOfFile_error (hasNull_of_mem_entries hfiles hmem) hfile

/-- A path that leads to a directory fails with a diagnostic only. -/
theorem hostsAt_error_of_directory
    (hexpand : h.expand (Path.ofString path) = .ok p)
    (hkind : h.isDirectory p = .ok true)
    (hfail : hostsAt h path = .error f) :
    f.IsDestination := by
  rw [hostsAt, hexpand, ok_bind, hkind] at hfail
  cases hfiles : entries h p with
  | error e =>
      simp only [hfiles] at hfail
      exact ⟨_, (Except.error.inj hfail).symm⟩
  | ok files =>
      simp only [hfiles] at hfail
      exact hostsOfFile_mapM_error hfiles (map_eq_error_iff.1 hfail)

/-- A path fails with a diagnostic, unless it is overlooked. -/
theorem hostsAt_error_iff :
    (hostsAt h path = .error f ∧ ¬ f.IsDestination) ↔ Overlooked h path f := by
  constructor
  · rintro ⟨hfail, hforeign⟩
    cases hexpand : h.expand (Path.ofString path) with
    | error g =>
        rw [hostsAt, hexpand] at hfail
        obtain rfl := Except.error.inj hfail
        exact .home hexpand
    | ok p =>
        rcases hkind : h.isDirectory p with e | _ | _
        · rw [hostsAt, hexpand, ok_bind, hkind] at hfail
          obtain rfl := Except.error.inj hfail
          exact .look hexpand hkind
        · rw [hostsAt, hexpand, ok_bind, hkind] at hfail
          by_cases hnull : Host.hasNull p = true
          · obtain rfl := Except.error.inj ((hostsOfFile_of_null hnull).symm.trans hfail)
            exact .null hexpand hnull
          · exact absurd (hostsOfFile_error (by simpa using hnull) hfail) hforeign
        · exact absurd (hostsAt_error_of_directory hexpand hkind hfail) hforeign
  · intro hoverlooked
    unfold hostsAt
    cases hoverlooked with
    | home hexpand =>
        exact ⟨by rw [hexpand]; rfl, not_isDestination_of_expand hexpand⟩
    | look hexpand hkind =>
        refine ⟨by rw [hexpand, ok_bind, hkind], ?_⟩
        rintro ⟨text, hsame⟩
        contradiction
    | @null p hexpand hnull =>
        have hkind : h.isDirectory p = .ok false := by
          rw [Host.isDirectory, Host.ask, if_pos hnull]
        refine ⟨by rw [hexpand, ok_bind, hkind]; exact hostsOfFile_of_null hnull, ?_⟩
        rintro ⟨text, hsame⟩
        contradiction

end Endpoint

namespace Source

variable {h : Host} {f : Failure}

/-! ## The first failure -/

/-- The first entry that does not contribute gives its failure to all. -/
theorem gathered_error_iff
    {entries : List (Except Failure String)} :
    gathered h entries = .error f
      ↔ ∃ earlier entry later, entries = earlier ++ entry :: later
          ∧ (∀ other ∈ earlier, ∃ list, contribution h other = .ok list)
          ∧ contribution h entry = .error f := by
  rw [gathered, map_eq_error_iff, mapM_eq_error_iff]

theorem gathered_flatMap
    (sources : List Source) :
    gathered h (sources.flatMap (expansion h))
      = List.flatten <$> sources.mapM (fun s => gathered h (expansion h s)) := by
  induction sources with
  | nil =>
      rfl
  | cons s sources ih =>
      rw [List.flatMap_cons, gathered_append, List.mapM_cons, ih]
      cases gathered h (expansion h s) with
      | error e =>
          rfl
      | ok list =>
          rw [ok_bind, ok_bind]
          cases sources.mapM (fun s => gathered h (expansion h s)) <;> rfl

/-- The first source that does not contribute gives its failure to all. -/
theorem gathered_flatMap_error_iff
    {sources : List Source} :
    gathered h (sources.flatMap (expansion h)) = .error f
      ↔ ∃ earlier s later, sources = earlier ++ s :: later
          ∧ (∀ other ∈ earlier, ∃ list, gathered h (expansion h other) = .ok list)
          ∧ gathered h (expansion h s) = .error f := by
  rw [gathered_flatMap, map_eq_error_iff, mapM_eq_error_iff]

/-! ## Sources that are overlooked -/

/-- A source fails with what is no diagnostic: its path does, or the resolver is interrupted, or fails as no
resolver does, at one of its names while all items before it are resolved. -/
inductive Overlooked (h : Host) (s : Source) : Failure → Prop
  | path {f : Failure} :
      s.kind = .file → Endpoint.Overlooked h s.value f → Overlooked h s f
  | name {earlier later : List (Except Failure String)} {item : String} {fault : Fault} :
      expansion h s = earlier ++ .ok item :: later →
      (∀ other ∈ earlier, ∃ list, contribution h other = .ok list) →
      Address.isLiteral item = false →
      h.addresses item = .error fault →
      (fault = .interrupt ∨ fault = .listing) →
      Overlooked h s (.ofFault fault)

/-- An item fails with a diagnostic, unless the resolver fails with what is passed on. -/
theorem contribution_item_error_iff
    {item : String} :
    (contribution h (.ok item) = .error f ∧ ¬ f.IsDestination)
      ↔ Address.isLiteral item = false
          ∧ ∃ fault, h.addresses item = .error fault ∧ (fault = .interrupt ∨ fault = .listing)
              ∧ f = .ofFault fault := by
  by_cases hliteral : Address.isLiteral item = true
  · simp [contribution_literal hliteral, hliteral]
  rw [contribution_name hliteral, Bool.eq_false_iff.2 hliteral]
  unfold resolution
  constructor
  · rintro ⟨hfail, hforeign⟩
    refine ⟨rfl, ?_⟩
    rcases hanswer : h.addresses item with (e | text | _ | _) | answer
    · rw [hanswer] at hfail
      exact absurd ⟨_, (Except.error.inj hfail).symm⟩ hforeign
    · rw [hanswer] at hfail
      exact absurd ⟨_, (Except.error.inj hfail).symm⟩ hforeign
    · rw [hanswer] at hfail
      exact ⟨.listing, rfl, .inr rfl, (Except.error.inj hfail).symm⟩
    · rw [hanswer] at hfail
      exact ⟨.interrupt, rfl, .inl rfl, (Except.error.inj hfail).symm⟩
    · rw [hanswer] at hfail
      cases answer with
      | nil =>
          exact absurd ⟨_, (Except.error.inj hfail).symm⟩ hforeign
      | cons address answer =>
          contradiction
  · rintro ⟨-, fault, hfault, rfl | rfl, rfl⟩
    · rw [hfault]
      exact ⟨rfl, by rintro ⟨text, ⟨⟩⟩⟩
    · rw [hfault]
      exact ⟨rfl, by rintro ⟨text, ⟨⟩⟩⟩

theorem expansion_of_unread
    {s : Source} (hfile : s.kind = .file) (hfail : Endpoint.hostsAt h s.value = .error f) :
    expansion h s = [.error f] := by
  simp [expansion, hfile, hfail]

theorem unread_of_mem_expansion
    {s : Source} (hmem : .error f ∈ expansion h s) :
    s.kind = .file ∧ Endpoint.hostsAt h s.value = .error f := by
  unfold expansion at hmem
  split at hmem
  · rename_i hfile
    cases hhosts : Endpoint.hostsAt h s.value with
    | ok hosts =>
        simp [hhosts] at hmem
    | error e =>
        simp only [hhosts, List.mem_singleton] at hmem
        exact ⟨hfile, congrArg Except.error (Except.error.inj hmem).symm⟩
  · simp at hmem

/-- A source fails with a diagnostic, unless it is overlooked. -/
theorem overlooked_iff
    {s : Source} :
    (gathered h (expansion h s) = .error f ∧ ¬ f.IsDestination) ↔ s.Overlooked h f := by
  constructor
  · rintro ⟨hfail, hforeign⟩
    obtain ⟨earlier, entry, later, hsplit, hok, hentry⟩ := gathered_error_iff.1 hfail
    cases entry with
    | ok item =>
        obtain ⟨hname, fault, hfault, hkind, rfl⟩ := contribution_item_error_iff.1 ⟨hentry, hforeign⟩
        exact .name hsplit hok hname hfault hkind
    | error e =>
        obtain rfl : e = f := Except.error.inj hentry
        have hmem : .error e ∈ expansion h s := by
          simp [hsplit]
        obtain ⟨hfile, hread⟩ := unread_of_mem_expansion hmem
        exact .path hfile (Endpoint.hostsAt_error_iff.1 ⟨hread, hforeign⟩)
  · intro hoverlooked
    cases hoverlooked with
    | path hfile hpath =>
        obtain ⟨hread, hforeign⟩ := Endpoint.hostsAt_error_iff.2 hpath
        refine ⟨gathered_error_iff.2 ⟨[], .error f, [], ?_, by simp, rfl⟩, hforeign⟩
        exact expansion_of_unread hfile hread
    | name hsplit hok hname hfault hkind =>
        obtain ⟨hentry, hforeign⟩ := contribution_item_error_iff.2 ⟨hname, _, hfault, hkind, rfl⟩
        exact ⟨gathered_error_iff.2 ⟨_, _, _, hsplit, hok, hentry⟩, hforeign⟩

/-- The extraction of some sources passes on a failure: the first source that does not contribute is
overlooked with it. -/
def Escapes (h : Host) (sources : List Source) (f : Failure) : Prop :=
  ∃ earlier s later, sources = earlier ++ s :: later
    ∧ (∀ other ∈ earlier, ∃ list, gathered h (expansion h other) = .ok list)
    ∧ s.Overlooked h f

theorem escapes_iff
    {sources : List Source} :
    (gathered h (sources.flatMap (expansion h)) = .error f ∧ ¬ f.IsDestination) ↔ Escapes h sources f := by
  constructor
  · rintro ⟨hfail, hforeign⟩
    obtain ⟨earlier, s, later, hsplit, hok, hs⟩ := gathered_flatMap_error_iff.1 hfail
    exact ⟨earlier, s, later, hsplit, hok, overlooked_iff.1 ⟨hs, hforeign⟩⟩
  · rintro ⟨earlier, s, later, hsplit, hok, hs⟩
    obtain ⟨hfail, hforeign⟩ := overlooked_iff.2 hs
    exact ⟨gathered_flatMap_error_iff.2 ⟨earlier, s, later, hsplit, hok, hfail⟩, hforeign⟩

/-- The extraction has the addresses of all sources, or fails with a diagnostic about destinations, unless a
source is overlooked; and then it passes on what that source fails with. -/
theorem extract_fails_closed_unless_overlooked
    (sources : List Source) (m : Machine) :
    (∀ f, (extract sources m).1 = .error f ∧ ¬ f.IsDestination ↔ Escapes m.host sources f)
      ∧ ((∃ addresses, (extract sources m).1 = .ok addresses)
            ∨ (∃ text, (extract sources m).1 = .error (.diagnostic (.of .destination text)))
          ↔ ∀ f, ¬ Escapes m.host sources f) := by
  have hrun : (extract sources m).1 = Distinct.of <$> gathered m.host (sources.flatMap (expansion m.host)) := by
    rw [(extract_consults sources).run m, answer_extract]
  have hescapes : ∀ f, (extract sources m).1 = .error f ∧ ¬ f.IsDestination ↔ Escapes m.host sources f := by
    intro f
    rw [hrun, map_eq_error_iff, escapes_iff]
  refine ⟨hescapes, Iff.trans ?_ (ok_or_iff_of_escapes hescapes)⟩
  refine or_congr_right ⟨?_, ?_⟩
  · rintro ⟨text, hfail⟩
    exact ⟨_, hfail, text, rfl⟩
  · rintro ⟨f, hfail, text, rfl⟩
    exact ⟨text, hfail⟩

/-! ## A host with a directory that may not be looked into -/

/-- A host that grants everything but a look into the directory of the client configurations. -/
def shutHost : Host :=
  { Lock.obligingHost with files := ⟨[(["vpn"], .unreachable ⟨13, "Permission denied", none⟩)]⟩ }

/-- There the extraction of a client configuration is ended by the failure of the look, although the resolver
never fails. -/
theorem shutHost_failure_passed :
    shutHost.resolver = []
      ∧ (extract [⟨.file, "/vpn/home.conf"⟩] (.ofHost shutHost)).1
          = .error (.system ⟨13, "Permission denied", some "/vpn/home.conf"⟩)
      ∧ ¬ (Failure.system ⟨13, "Permission denied", some "/vpn/home.conf"⟩).IsDestination := by
  refine ⟨rfl, rfl, ?_⟩
  rintro ⟨text, ⟨⟩⟩

end Source
end Killswitch
