import Killswitch.Policy.File
import Killswitch.Proofs.Host.Paths
import Killswitch.Proofs.Lock.Check
import Killswitch.Proofs.Policy.Entries
import Killswitch.Proofs.Source.Extraction

/-!
# Files beside a policy file

The files that a policy file names are seen from its directory. A name is made a path from there, which becomes the
value of a source, and the value is read as a path again when the destinations are extracted.

**Two tildes.** The path of the policy file is taken as it is, but a leading tilde is replaced twice for the files:
in the name, and in the value of the source. So where the directory of the policy file itself starts with a tilde, the
file beside it is not found, but looked for in a home directory.

**Results.**
* `Endpoint.ofPath_run`: what is read where a path leads after its tilde has been replaced;
* `found_of_filePath`: where the value of a source leads, for one name;
* `policy_files_found`: where the files that a policy file names are found;
* `tildeDirectory_not_found`: a file beside a policy file that is not found.
-/

namespace Killswitch

open Killswitch.Action
open Yaml (Document)

/-! ## What is opened -/

namespace Endpoint

/-- The hosts of the file or directory that a path leads to as it is. -/
def reading (path : Path) : Action (List String) := do
  let host ← Action.host
  match host.isDirectory path with
  | .error e => throw (.system e)
  | .ok false => ofFile path
  | .ok true =>
      match entries host path with
      | .error e =>
          unknown ("cannot read directory " ++ path.toString ++ ": " ++ e.message)
      | .ok files => return (← files.mapM ofFile).flatten

/-- What a spelled path stands for is read after its tilde has been replaced. -/
theorem ofPath_run
    {m : Machine} {path : String} {q : Path} (hexpand : m.host.expand (Path.ofString path) = .ok q) :
    ofPath path m = reading q m := by
  rw [ofPath, host_bind_run, bind_run, ofOutcome_run, hexpand]
  rfl

end Endpoint

namespace PolicyFile

/-- Where a source of a file is looked for: what is read for it is what a path leads to. -/
def Opens (h : Host) (file : String) (q : Path) : Prop :=
  ∀ m : Machine, m.host = h → (Source.mk .file file).items m = Endpoint.reading q m

theorem opens_of_expand
    {h : Host} {file : String} {q : Path} (hexpand : h.expand (Path.ofString file) = .ok q) :
    Opens h file q := by
  rintro m rfl
  exact Endpoint.ofPath_run hexpand

/-! ## One name -/

/-- Where the value of a source leads that was made of the path `p` in a policy file. -/
structure Found (h : Host) (policy p : Path) (file : String) : Prop where
  /-- a path from the root is taken as it is -/
  rooted : p.root ≠ .here → Opens h file p
  /-- a leading tilde stands for a home directory -/
  home : ∀ e, p.StartsAtHome → h.expand p = .ok e → e.root ≠ .here → Opens h file e
  /-- any other path is seen from the directory of the policy file -/
  beside : p.root = .here → ¬ p.StartsAtHome → ¬ policy.parent.StartsAtHome →
    ∃ q, Opens h file q ∧ h.place q = p.resolve (h.place policy.parent)
  /-- where that directory has a leading tilde, it is replaced too -/
  astray : ∀ q, p.root = .here → ¬ p.StartsAtHome → h.expand (policy.parent.join p) = .ok q → Opens h file q

/-- The value of a source is read as the path that it was made of. -/
theorem ofString_filePath
    {h : Host} {policy : Path} {name file : String}
    (hpolicy : policy.HasNames) (hfile : PolicyDocument.filePath h (some policy.parent) name = .ok file) :
    ∃ e, h.expand (Path.ofString name) = .ok e ∧ Path.ofString file = policy.parent.join e := by
  obtain ⟨e, he, hjoin⟩ := bind_eq_ok_iff.1 hfile
  obtain rfl := Except.ok.inj hjoin
  have hnames := Host.hasNames_of_expand (Path.hasNames_ofString name) he
  exact ⟨e, he, Path.ofString_toString (hpolicy.parent.join hnames)⟩

theorem found_of_filePath
    {h : Host} {policy : Path} {name file : String}
    (hpolicy : policy.HasNames) (hfile : PolicyDocument.filePath h (some policy.parent) name = .ok file) :
    Found h policy (Path.ofString name) file := by
  obtain ⟨e, he, hspelled⟩ := ofString_filePath hpolicy hfile
  -- A path from the root does not start with a tilde, so nothing is replaced in it any more.
  have hrooted : e.root ≠ .here → Opens h file e := by
    intro hroot
    refine opens_of_expand ?_
    rw [hspelled, Path.join_of_rooted hroot]
    exact h.expand_of_not_startsAtHome (fun hhome => hroot hhome.1)
  have hname : ¬ (Path.ofString name).StartsAtHome → e = Path.ofString name := by
    intro hhome
    rw [h.expand_of_not_startsAtHome hhome] at he
    exact (Except.ok.inj he).symm
  refine ⟨fun hroot => ?_, fun e' _ he' hroot => ?_, fun hhere hhome hdirectory => ?_, fun q _ hhome hq => ?_⟩
  · obtain rfl := hname (fun hhome => hroot hhome.1)
    exact hrooted hroot
  · obtain rfl := Except.ok.inj (he.symm.trans he')
    exact hrooted hroot
  · obtain rfl := hname hhome
    refine ⟨policy.parent.join (Path.ofString name), opens_of_expand ?_, h.place_join hhere⟩
    rw [hspelled]
    refine h.expand_of_not_startsAtHome (fun hjoined => ?_)
    rcases (Path.startsAtHome_join_iff hhere).1 hjoined with hstarts | ⟨-, hstarts⟩
    · exact hdirectory hstarts
    · exact hhome hstarts
  · obtain rfl := hname hhome
    exact opens_of_expand (hspelled ▸ hq)

/-! ## The whole file -/

def namedFiles (h : Host) (path : Path) : Except Failure (List String) := do
  let text ← decode (← h.read path)
  PolicyDocument.strings (← (Document.ofText text).mapError Failure.document) "files"

/-- The sources of the files that a policy file names, in order. -/
theorem exists_sources_of_read
    {h : Host} {path : Path} {o : Options} (hread : read h path = .ok o) :
    ∃ addresses hosts names files,
      namedFiles h path = .ok names
        ∧ o.sources = Source.listOf addresses hosts files
        ∧ List.Forall₂ (fun name file => PolicyDocument.filePath h (some path.parent) name = .ok file)
          names files := by
  obtain ⟨bytes, hbytes, hread⟩ := bind_eq_ok_iff.1 hread
  obtain ⟨text, htext, hread⟩ := bind_eq_ok_iff.1 hread
  obtain ⟨d, hd, hdocument⟩ := bind_eq_ok_iff.1 hread
  have hmapping : PolicyDocument.IsMapping d := by
    by_contra hnone
    rw [PolicyDocument.ofDocument_of_not_isMapping h _ hnone] at hdocument
    contradiction
  rw [PolicyDocument.ofDocument_of_isMapping h _ hmapping] at hdocument
  obtain ⟨addresses, hosts, names, files, hreads⟩ := (PolicyDocument.ofEntries_eq_ok_iff h _).1 hdocument
  refine ⟨addresses, hosts, names, files, ?_, hreads.sources, hreads.paths⟩
  rw [namedFiles, hbytes, ok_bind, htext, ok_bind, hd, ok_bind]
  exact PolicyDocument.strings_eq_ok_iff.2 hreads.read_files

/-- The files that a policy file names are found from its directory, which holds the policy file if its path ends in a
name: a path from the root where it leads, one with a leading tilde in that home directory, and any other one from the
directory, unless the path of the directory has a leading tilde itself. -/
theorem policy_files_found
    (h : Host) (s : String) (o : Options) (hread : read h (Path.ofString s) = .ok o) :
    (∃ addresses hosts names files,
        namedFiles h (Path.ofString s) = .ok names
          ∧ o.sources = Source.listOf addresses hosts files
          ∧ List.Forall₂ (fun name file => Found h (Path.ofString s) (Path.ofString name) file) names files)
      ∧ (∀ last, (Path.ofString s).parts.getLast? = some last → last ≠ ".." →
          h.place (Path.ofString s).parent = (h.place (Path.ofString s)).dropLast)
      ∧ ∀ name : String, name.toList.head? = some '~' → (Path.ofString name).StartsAtHome := by
  refine ⟨?_, fun last hlast hname => h.place_parent hlast hname, fun name => Path.ofString_startsAtHome⟩
  obtain ⟨addresses, hosts, names, files, hnames, hsources, hfiles⟩ := exists_sources_of_read hread
  exact ⟨addresses, hosts, names, files, hnames, hsources,
    hfiles.imp (fun _ _ => found_of_filePath (Path.hasNames_ofString s))⟩

/-- A host with a policy file in a directory below the current one. -/
def besideHost : Host :=
  { Lock.obligingHost with
    files := ⟨[(["work", "vpn", "policy.yaml"], .file (Text.Utf8.encode "files: [../wg0.conf]\n".toList) none),
      (["work", "wg0.conf"], .file (Text.Utf8.encode "Endpoint = 192.0.2.9:51820\n".toList) none)]⟩ }

theorem besideHost_read :
    read besideHost (Path.ofString "vpn/policy.yaml")
        = .ok ⟨.none, [], [⟨.file, "vpn/../wg0.conf"⟩], false, ""⟩
      ∧ namedFiles besideHost (Path.ofString "vpn/policy.yaml") = .ok ["../wg0.conf"] :=
  ⟨toOption_eq_some_iff.1 (by decide +kernel), toOption_eq_some_iff.1 (by decide +kernel)⟩

/-- The file is opened in the directory above that of the policy file. -/
theorem besideHost_found :
    ∃ q, Opens besideHost "vpn/../wg0.conf" q
      ∧ besideHost.place q = ["work", "wg0.conf"]
      ∧ besideHost.place (Path.ofString "vpn/policy.yaml") = ["work", "vpn", "policy.yaml"] := by
  obtain ⟨⟨addresses, hosts, names, files, hnames, hsources, hfound⟩, -, -⟩ :=
    policy_files_found besideHost "vpn/policy.yaml" _ besideHost_read.1
  obtain rfl := Except.ok.inj (besideHost_read.2.symm.trans hnames)
  obtain ⟨file, rest, hfile, hrest, rfl⟩ := List.forall₂_cons_left_iff.1 hfound
  obtain rfl := List.forall₂_nil_left_iff.1 hrest
  obtain rfl : "vpn/../wg0.conf" = file := by
    simpa [Source.listOf] using congrArg List.getLast? hsources
  obtain ⟨q, hopens, hplace⟩ := hfile.beside (by decide) (by decide) (by decide)
  exact ⟨q, hopens, hplace.trans (by decide), by decide⟩

/-- A host with a directory whose name is a tilde, and a file of the same name in it and in a home directory. -/
def tildeHost : Host :=
  { Lock.obligingHost with
    files := ⟨[(["work", "~", "policy.yaml"], .file (Text.Utf8.encode "files: [wg0.conf]\n".toList) none),
      (["work", "~", "wg0.conf"], .file (Text.Utf8.encode "Endpoint = 192.0.2.9:51820\n".toList) none),
      (["home", "user", "wg0.conf"], .file (Text.Utf8.encode "Endpoint = 203.0.113.5:51820\n".toList) none)]⟩ }

/-- The policy file is read in the directory that is named like a home directory, but the file that it names is looked
for in the home directory. -/
theorem tildeDirectory_not_found :
    tildeHost.place (Path.ofString "~/policy.yaml") = ["work", "~", "policy.yaml"]
      ∧ namedFiles tildeHost (Path.ofString "~/policy.yaml") = .ok ["wg0.conf"]
      ∧ read tildeHost (Path.ofString "~/policy.yaml") = .ok ⟨.none, [], [⟨.file, "~/wg0.conf"⟩], false, ""⟩
      ∧ answer (Source.extract [⟨.file, "~/wg0.conf"⟩]) tildeHost = .ok ["203.0.113.5"]
      ∧ Endpoint.hostsOfFile tildeHost ⟨.slash, ["work", "~", "wg0.conf"]⟩ = .ok ["192.0.2.9"] :=
  ⟨by decide, toOption_eq_some_iff.1 (by decide +kernel), toOption_eq_some_iff.1 (by decide +kernel),
    toOption_eq_some_iff.1 (by decide +kernel), toOption_eq_some_iff.1 (by decide +kernel)⟩

end PolicyFile
end Killswitch
