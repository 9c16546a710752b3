import Killswitch.Proofs.Source.Diagnosis

/-!
# Directories of client configurations

Of a directory the visible files are read: the regular files directly in it whose names do not start with a dot.
They are read in the order of their names, in whatever order the directory lists them, and the first one that
cannot be read ends the reading. Nothing else about the directory matters, as long as every entry can be looked
at.

**Entries that cannot be looked at.** Which entries are regular files is asked before any name is considered. So
the first entry that cannot be looked at ends the reading also if it is hidden.

**Results.**
* `FileSystem.pairwise_inOrder`, `FileSystem.eq_of_pairwise_lt`: names in order, of which there is one list;
* `IsRead`, `Reads`: the files that are read, and what reading them in turn comes to;
* `entries_of_seen`, `entries_of_unseen`: the files of a directory whose entries can be looked at, and of one
  with an entry that cannot;
* `directory_read_unless_obstructed`: what is read from a directory, and what it depends on;
* `hiddenEntry_not_skipped`: a hidden entry that is not left out.
-/

namespace Killswitch

open Killswitch.Action

/-! ## Names in order -/

namespace FileSystem

variable {names other : List String}

theorem nodup_namesBelow
    (fs : FileSystem) (parts : List String) :
    (fs.namesBelow parts).Nodup := by
  rw [namesBelow, ← Distinct.of_eq_eraseDups]
  exact Distinct.nodup_extend List.nodup_nil _

@[simp] theorem mem_inOrder
    {name : String} :
    name ∈ inOrder names ↔ name ∈ names :=
  List.mem_mergeSort

theorem pairwise_inOrder
    (h : names.Nodup) :
    (inOrder names).Pairwise (· < ·) := by
  have hsorted : (inOrder names).Pairwise (fun a b => decide (a ≤ b) = true) := by
    refine List.pairwise_mergeSort (fun a b c hab hbc => ?_) (fun a b => ?_) names
    · exact decide_eq_true (String.le_trans (of_decide_eq_true hab) (of_decide_eq_true hbc))
    · simpa using String.le_total a b
  have hnodup : (inOrder names).Nodup :=
    (List.mergeSort_perm names _).nodup_iff.2 h
  exact (hsorted.and hnodup).imp (fun hab => Std.lt_of_le_of_ne (of_decide_eq_true hab.1) hab.2)

/-- There is one way to put names in order. -/
theorem eq_of_pairwise_lt
    (h : names.Pairwise (· < ·)) (hother : other.Pairwise (· < ·))
    (hsame : ∀ name, name ∈ names ↔ name ∈ other) :
    names = other := by
  have hperm : names.Perm other :=
    (List.perm_ext_iff_of_nodup (h.imp (fun hab => Std.ne_of_lt hab))
      (hother.imp (fun hab => Std.ne_of_lt hab))).2 hsame
  exact hperm.eq_of_pairwise (fun _ _ _ _ hab hba => absurd hba (String.lt_asymm hab)) h hother

end FileSystem

theorem Host.nodup_names
    {h : Host} {directory : Path} {names : List String}
    (hlisted : h.names directory = .ok names) :
    names.Nodup := by
  unfold Host.names FileSystem.names at hlisted
  split at hlisted
  · contradiction
  · obtain rfl := Except.ok.inj hlisted
    exact FileSystem.nodup_namesBelow _ _
  · contradiction
  · contradiction
  · contradiction

namespace Endpoint

/-! ## What is read -/

/-- A name that is not hidden: it does not start with a dot. -/
def IsVisible (name : String) : Prop :=
  name.toList.head? ≠ some '.'

/-- A path leads to a directory, which lists some names. -/
structure Lists (h : Host) (path : String) (directory : Path) (names : List String) : Prop where
  expanded : h.expand (Path.ofString path) = .ok directory
  isDirectory : h.isDirectory directory = .ok true
  listed : h.names directory = .ok names

/-- Each of some entries of a directory can be looked at. -/
def AllSeen (h : Host) (directory : Path) (names : List String) : Prop :=
  ∀ name ∈ names, ∃ isFile, h.isFile (directory.child name) = .ok isFile

/-- A listed name is that of a visible file. -/
structure IsRead (h : Host) (directory : Path) (names : List String) (name : String) : Prop where
  listed : name ∈ names
  visible : IsVisible name
  isFile : h.isFile (directory.child name) = .ok true

/-- Two hosts have the same visible files in a directory: the same names, and the same is read under each. -/
structure SameFiles (h h' : Host) (directory : Path) (names names' : List String) : Prop where
  isRead : ∀ name, IsRead h directory names name ↔ IsRead h' directory names' name
  read : ∀ name, IsRead h directory names name →
    h.read (directory.child name) = h'.read (directory.child name)

theorem isRead_iff
    {h : Host} {directory : Path} {names : List String} {name : String} :
    IsRead h directory names name
      ↔ name ∈ names ∧ name.toList.head? ≠ some '.' ∧ (h.isFile (directory.child name)).toOption = some true := by
  rw [toOption_eq_some_iff]
  exact ⟨fun h => ⟨h.listed, h.visible, h.isFile⟩, fun ⟨hlisted, hvisible, hfile⟩ => ⟨hlisted, hvisible, hfile⟩⟩

instance (h : Host) (directory : Path) (names : List String) (name : String) :
    Decidable (IsRead h directory names name) :=
  decidable_of_iff _ isRead_iff.symm

/-- Only listed names need to be compared. -/
theorem sameFiles_of_listed
    {h h' : Host} {directory : Path} {names names' : List String}
    (hisRead : ∀ name ∈ names ++ names', IsRead h directory names name ↔ IsRead h' directory names' name)
    (hread : ∀ name ∈ names, h.read (directory.child name) = h'.read (directory.child name)
      ∨ ¬ IsRead h directory names name) :
    SameFiles h h' directory names names' where
  isRead name := by
    by_cases hlisted : name ∈ names ++ names'
    · exact hisRead name hlisted
    · rw [List.mem_append, not_or] at hlisted
      exact ⟨fun h => absurd h.listed hlisted.1, fun h => absurd h.listed hlisted.2⟩
  read name hname :=
    (hread name hname.listed).resolve_right (not_not_intro hname)

/-- What reading some files of a directory in turn comes to: the hosts of all of them one after the other, or why
the first one that cannot be read cannot be read. -/
inductive Reads (h : Host) (directory : Path) : List String → Except Failure (List String) → Prop
  | nil :
      Reads h directory [] (.ok [])
  | cons {name : String} {names : List String} {bytes : List UInt8} {outcome : Except Failure (List String)} :
      h.read (directory.child name) = .ok bytes → Reads h directory names outcome →
      Reads h directory (name :: names) ((ofBytes bytes ++ ·) <$> outcome)
  | refused {name : String} {names : List String} {e : SystemError} :
      h.read (directory.child name) = .error (.system e) →
      Reads h directory (name :: names)
        (.error (unread ("cannot read " ++ (directory.child name).toString ++ ": " ++ e.message)))

section Reading

variable {h : Host} {path : String} {directory : Path} {names earlier later files : List String}

/-- A regular file can be read, or the system refuses it. -/
theorem read_of_isFile
    {p : Path} (hfile : h.isFile p = .ok true) :
    (∃ bytes, h.read p = .ok bytes) ∨ ∃ e, h.read p = .error (.system e) := by
  have hnull : Host.hasNull p = false := by
    refine Bool.eq_false_iff.2 (fun hnull => ?_)
    rw [Host.isFile, Host.ask, if_pos hnull] at hfile
    exact absurd (Except.ok.inj hfile) (by decide)
  rw [Host.read, hnull]
  cases h.files.read p.toString (h.place p) with
  | ok bytes =>
      exact .inl ⟨bytes, rfl⟩
  | error e =>
      exact .inr ⟨e, rfl⟩

theorem reads_of_isFile
    (hfiles : ∀ name ∈ files, h.isFile (directory.child name) = .ok true) :
    Reads h directory files (List.flatten <$> (files.map directory.child).mapM (hostsOfFile h)) := by
  induction files with
  | nil =>
      exact .nil
  | cons name files ih =>
      obtain ⟨hname, hrest⟩ := List.forall_mem_cons.1 hfiles
      rw [List.map_cons, List.mapM_cons]
      rcases read_of_isFile hname with ⟨bytes, hread⟩ | ⟨e, hread⟩
      · have hhosts : hostsOfFile h (directory.child name) = .ok (ofBytes bytes) := by
          rw [hostsOfFile, hread]
        have hreads := Reads.cons hread (ih hrest)
        rw [hhosts, ok_bind]
        cases hmore : (files.map directory.child).mapM (hostsOfFile h) with
        | error f =>
            rwa [hmore] at hreads
        | ok lists =>
            rwa [hmore] at hreads
      · have hhosts : hostsOfFile h (directory.child name)
            = .error (unread ("cannot read " ++ (directory.child name).toString ++ ": " ++ e.message)) := by
          rw [hostsOfFile, hread]
        rw [hhosts]
        exact .refused hread

/-- Where all entries can be looked at, the files that are read are the visible ones, in order. -/
theorem entries_of_seen
    (hlisted : h.names directory = .ok names) (hseen : AllSeen h directory names) :
    ∃ files : List String, files.Pairwise (· < ·)
      ∧ (∀ name, name ∈ files ↔ IsRead h directory names name)
      ∧ entries h directory = .ok (files.map directory.child) := by
  let isFile (name : String) : Bool := (h.isFile (directory.child name)).toOption.getD false
  let visible := (names.filter isFile).filter (fun name => name.toList.head? != some '.')
  have hanswer : ∀ name ∈ names, h.isFile (directory.child name) = .ok (isFile name) := by
    intro name hname
    obtain ⟨answer, hanswer⟩ := hseen name hname
    simp [isFile, hanswer, Except.toOption]
  refine ⟨FileSystem.inOrder visible, ?_, fun name => ?_, ?_⟩
  · exact FileSystem.pairwise_inOrder (((Host.nodup_names hlisted).filter _).filter _)
  · rw [FileSystem.mem_inOrder, List.mem_filter, List.mem_filter, bne_iff_ne]
    constructor
    · rintro ⟨⟨hname, hfile⟩, hvisible⟩
      exact ⟨hname, hvisible, hfile ▸ hanswer name hname⟩
    · rintro ⟨hname, hvisible, hfile⟩
      exact ⟨⟨hname, Except.ok.inj ((hanswer name hname).symm.trans hfile)⟩, hvisible⟩
  · rw [entries, hlisted]
    change (names.filterM (fun name => h.isFile (directory.child name)) >>= _) = _
    rw [filterM_eq_ok hanswer]
    rfl

/-- The first entry that cannot be looked at is the reason why no file is read. -/
theorem entries_of_unseen
    {name : String} {e : SystemError}
    (hlisted : h.names directory = .ok (earlier ++ name :: later))
    (hseen : AllSeen h directory earlier) (hname : h.isFile (directory.child name) = .error e) :
    entries h directory = .error e := by
  rw [entries, hlisted]
  change ((earlier ++ name :: later).filterM (fun name => h.isFile (directory.child name)) >>= _) = _
  rw [filterM_eq_error hseen hname]
  rfl

theorem ofPath_run_of_entries
    {m : Machine} {paths : List Path}
    (hlists : Lists m.host path directory names) (hentries : entries m.host directory = .ok paths) :
    ofPath path m = (List.flatten <$> paths.mapM ofFile) m := by
  rw [ofPath, host_bind_run, bind_run, ofOutcome_run, hlists.expanded]
  dsimp only
  rw [hlists.isDirectory]
  dsimp only
  rw [hentries]
  rfl

theorem ofPath_of_entries_error
    {m : Machine} {e : SystemError}
    (hlists : Lists m.host path directory names) (hentries : entries m.host directory = .error e) :
    (ofPath path m).1
      = .error (unread ("cannot read directory " ++ directory.toString ++ ": " ++ e.message)) := by
  rw [(ofPath_consults path).run m, answer_ofPath, hostsAt, hlists.expanded, ok_bind, hlists.isDirectory]
  dsimp only
  rw [hentries]

/-- A file is read alike on two hosts that have the same bytes in it. -/
theorem ofFile_sameOn
    {h' : Host} {p : Path} (hread : h.read p = h'.read p) :
    SameOn h h' (ofFile p) where
  answer_eq := by
    rw [answer_ofFile, answer_ofFile, hostsOfFile, hostsOfFile, hread]
  entries_eq := by
    rw [Action.entries, Action.entries, ofFile, host_bind_run, host_bind_run,
      show (Machine.ofHost h).host.read p = h'.read p from hread,
      show (Machine.ofHost h').host.read p = h'.read p from rfl]
    cases h'.read p with
    | ok bytes =>
        dsimp only
        split <;> rfl
    | error f =>
        cases f <;> rfl

end Reading

/-- Of a directory that can be listed, the visible files are read in the order of their names, if each of its
entries can be looked at. Then a host with the same visible files, in whatever order it lists them and whatever
else it lists, comes to the same outcome with the same remarks. An entry that cannot be looked at, hidden or not,
ends the reading instead. -/
theorem directory_read_unless_obstructed
    {path : String} {m : Machine} {directory : Path} {names : List String}
    (hlists : Lists m.host path directory names) :
    (AllSeen m.host directory names →
      (∃ files : List String, files.Pairwise (· < ·)
          ∧ (∀ name, name ∈ files ↔ IsRead m.host directory names name)
          ∧ Reads m.host directory files (ofPath path m).1)
        ∧ ∀ (m' : Machine) (names' : List String),
            Lists m'.host path directory names' →
            AllSeen m'.host directory names' →
            SameFiles m.host m'.host directory names names' →
            ∃ outcome entered,
              ofPath path m = (outcome, { m with journal := m.journal ++ entered })
                ∧ ofPath path m' = (outcome, { m' with journal := m'.journal ++ entered }))
      ∧ ∀ earlier name later e,
          names = earlier ++ name :: later →
          AllSeen m.host directory earlier →
          m.host.isFile (directory.child name) = .error e →
          (ofPath path m).1
            = .error (unread ("cannot read directory " ++ directory.toString ++ ": " ++ e.message)) := by
  refine ⟨fun hseen => ?_, fun earlier name later e hnames hearlier hname => ?_⟩
  · obtain ⟨files, hsorted, hfiles, hentries⟩ := entries_of_seen hlists.listed hseen
    have hrun := ofPath_run_of_entries hlists hentries
    have hall : Consults Event.Quiet ((files.map directory.child).mapM ofFile) :=
      Consults.mapM ofFile_consults _
    refine ⟨⟨files, hsorted, hfiles, ?_⟩, fun m' names' hlists' hseen' hsame => ?_⟩
    · rw [hrun, (hall.map List.flatten).run m, answer_map List.flatten hall,
        answer_mapM ofFile_consults]
      simp only [answer_ofFile]
      exact reads_of_isFile (fun name hname => ((hfiles name).1 hname).isFile)
    · obtain ⟨files', hsorted', hfiles', hentries'⟩ := entries_of_seen hlists'.listed hseen'
      obtain rfl : files = files' := FileSystem.eq_of_pairwise_lt hsorted hsorted'
        (fun name => (hfiles name).trans ((hsame.isRead name).trans (hfiles' name).symm))
      have hreads : ∀ p ∈ files.map directory.child, SameOn m.host m'.host (ofFile p) := by
        intro p hp
        obtain ⟨name, hname, rfl⟩ := List.mem_map.1 hp
        exact ofFile_sameOn (hsame.read name ((hfiles name).1 hname))
      rw [hrun, ofPath_run_of_entries hlists' hentries']
      exact SameOn.run (hall.map List.flatten) ((SameOn.mapM ofFile_consults hreads).map List.flatten hall)
  · have hlisted : m.host.names directory = .ok (earlier ++ name :: later) := hnames ▸ hlists.listed
    exact ofPath_of_entries_error hlists (entries_of_unseen hlisted hearlier hname)

/-! ## Two directories with the same visible files -/

/-- A client configuration that names one host. -/
def naming (host : String) : Node :=
  .file ((("remote " ++ host).toList).map (·.toNat.toUInt8)) none

/-- A host with two client configurations in a directory. -/
def tidyHost : Host :=
  { Lock.obligingHost with
    files := ⟨[(["vpn", "away.conf"], naming "vpn.example"), (["vpn", "home.conf"], naming "192.0.2.9")]⟩ }

/-- A host that lists them the other way round, between a hidden file and a directory. -/
def mixedHost : Host :=
  { Lock.obligingHost with
    files := ⟨[(["vpn", ".old"], naming "192.0.2.1"), (["vpn", "home.conf"], naming "192.0.2.9"),
      (["vpn", "nested", "more.conf"], naming "192.0.2.2"), (["vpn", "away.conf"], naming "vpn.example")]⟩ }

/-- A host with a hidden entry beside them that may not be looked at. -/
def obstructedHost : Host :=
  { Lock.obligingHost with
    files := ⟨[(["vpn", ".old"], .unreachable ⟨13, "Permission denied", none⟩),
      (["vpn", "away.conf"], naming "vpn.example"), (["vpn", "home.conf"], naming "192.0.2.9")]⟩ }

theorem tidyHost_lists :
    Lists tidyHost "/vpn" (.ofString "/vpn") ["away.conf", "home.conf"] :=
  ⟨rfl, rfl, rfl⟩

theorem tidyHost_seen :
    AllSeen tidyHost (.ofString "/vpn") ["away.conf", "home.conf"] := by
  intro name hname
  simp only [List.mem_cons, List.not_mem_nil, or_false] at hname
  rcases hname with rfl | rfl <;> exact ⟨true, rfl⟩

theorem mixedHost_lists :
    Lists mixedHost "/vpn" (.ofString "/vpn") [".old", "home.conf", "nested", "away.conf"] :=
  ⟨rfl, rfl, rfl⟩

theorem mixedHost_seen :
    AllSeen mixedHost (.ofString "/vpn") [".old", "home.conf", "nested", "away.conf"] := by
  intro name hname
  simp only [List.mem_cons, List.not_mem_nil, or_false] at hname
  rcases hname with rfl | rfl | rfl | rfl
  · exact ⟨true, rfl⟩
  · exact ⟨true, rfl⟩
  · exact ⟨false, rfl⟩
  · exact ⟨true, rfl⟩

theorem tidyHost_sameFiles_mixedHost :
    SameFiles tidyHost mixedHost (.ofString "/vpn") ["away.conf", "home.conf"]
      [".old", "home.conf", "nested", "away.conf"] := by
  refine sameFiles_of_listed (by decide +kernel) (fun name hname => ?_)
  simp only [List.mem_cons, List.not_mem_nil, or_false] at hname
  rcases hname with rfl | rfl <;> exact .inl rfl

/-- Both hosts come to the same, although they list the files in different orders. -/
theorem tidyHost_read_alike :
    (∃ outcome, (ofPath "/vpn" (.ofHost tidyHost)).1 = outcome
        ∧ (ofPath "/vpn" (.ofHost mixedHost)).1 = outcome)
      ∧ ∃ files : List String, files.Pairwise (· < ·)
        ∧ (∀ name, name ∈ files ↔ IsRead mixedHost (.ofString "/vpn") [".old", "home.conf", "nested", "away.conf"] name)
        ∧ Reads mixedHost (.ofString "/vpn") files (ofPath "/vpn" (.ofHost mixedHost)).1 := by
  obtain ⟨outcome, entered, htidy, hmixed⟩ :=
    ((directory_read_unless_obstructed (m := .ofHost tidyHost) tidyHost_lists).1 tidyHost_seen).2
      (.ofHost mixedHost) _ mixedHost_lists mixedHost_seen tidyHost_sameFiles_mixedHost
  exact ⟨⟨outcome, congrArg Prod.fst htidy, congrArg Prod.fst hmixed⟩,
    ((directory_read_unless_obstructed (m := .ofHost mixedHost) mixedHost_lists).1 mixedHost_seen).1⟩

/-- The refusal of a look at the hidden entry. -/
def refusedLook : SystemError :=
  ⟨13, "Permission denied", some "/vpn/.old"⟩

theorem obstructedHost_lists :
    Lists obstructedHost "/vpn" (.ofString "/vpn") [".old", "away.conf", "home.conf"] :=
  ⟨rfl, rfl, rfl⟩

theorem tidyHost_sameFiles_obstructedHost :
    SameFiles tidyHost obstructedHost (.ofString "/vpn") ["away.conf", "home.conf"]
      [".old", "away.conf", "home.conf"] := by
  refine sameFiles_of_listed (by decide +kernel) (fun name hname => ?_)
  simp only [List.mem_cons, List.not_mem_nil, or_false] at hname
  rcases hname with rfl | rfl <;> exact .inl rfl

theorem tidyHost_read :
    (ofPath "/vpn" (.ofHost tidyHost)).1 = .ok ["vpn.example", "192.0.2.9"] := by
  have hentries : entries tidyHost (.ofString "/vpn")
      = .ok (["away.conf", "home.conf"].map (Path.ofString "/vpn").child) := by
    change Except.ok ((FileSystem.inOrder ["away.conf", "home.conf"]).map (Path.ofString "/vpn").child) = _
    rw [FileSystem.inOrder, List.mergeSort_of_pairwise (by decide)]
  rw [ofPath_run_of_entries tidyHost_lists hentries]
  rfl

/-- A hidden entry that may not be looked at is not left out: with it there is a failure, although the visible
files are the same. -/
theorem hiddenEntry_not_skipped :
    Lists tidyHost "/vpn" (.ofString "/vpn") ["away.conf", "home.conf"]
      ∧ Lists obstructedHost "/vpn" (.ofString "/vpn") [".old", "away.conf", "home.conf"]
      ∧ ¬ IsVisible ".old"
      ∧ SameFiles tidyHost obstructedHost (.ofString "/vpn") ["away.conf", "home.conf"]
          [".old", "away.conf", "home.conf"]
      ∧ (ofPath "/vpn" (.ofHost tidyHost)).1 = .ok ["vpn.example", "192.0.2.9"]
      ∧ (ofPath "/vpn" (.ofHost obstructedHost)).1
          = .error (unread ("cannot read directory /vpn: " ++ refusedLook.message)) := by
  have hlisted : obstructedHost.names (.ofString "/vpn") = .ok ([] ++ ".old" :: ["away.conf", "home.conf"]) :=
    obstructedHost_lists.listed
  have hentries : entries obstructedHost (.ofString "/vpn") = .error refusedLook :=
    entries_of_unseen hlisted (List.forall_mem_nil _) rfl
  exact ⟨tidyHost_lists, obstructedHost_lists, not_not_intro rfl, tidyHost_sameFiles_obstructedHost,
    tidyHost_read, ofPath_of_entries_error (m := .ofHost obstructedHost) obstructedHost_lists hentries⟩

end Endpoint
end Killswitch
