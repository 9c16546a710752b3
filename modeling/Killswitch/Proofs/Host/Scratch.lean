import Killswitch.Lock.Session
import Killswitch.Proofs.Text.Pieces

/-!
# Scratch files

A scratch file lies in the scratch directory under a name with a number. The name has no slash, no null
character and is no pair of dots, so its path leads to that one entry.

**Results.**
* `ofString_scratchPath`: the components of a scratch file's path;
* `FileSystem.put_put`, `FileSystem.remove_put_self`: only the last change of a place counts;
* `Host.read_put_scratch`, `Host.eq_of_read_put_scratch`: what is put into a scratch file is read from it,
  and nothing else;
* `Host.mem_scratchFiles_iff`: which scratch files are there.
-/

namespace Killswitch

/-! ## Paths of scratch files -/

namespace Action

/-- The name of a scratch file by its number. -/
def scratchName (n : Nat) : String :=
  "netlock." ++ toString n ++ ".conf"

theorem toList_scratchName (n : Nat) :
    (scratchName n).toList = "netlock.".toList ++ Nat.toDigits 10 n ++ ".conf".toList := by
  simp [scratchName]

theorem toList_scratchPath (n : Nat) :
    (scratchPath n).toList = '/' :: ("tmp".toList ++ '/' :: (scratchName n).toList) := by
  simp [scratchPath, scratchName]

/-- The name of a scratch file holds neither a slash nor a null character. -/
theorem ne_of_mem_scratchName
    {n : Nat} {c : Char} (hc : c ∈ (scratchName n).toList) :
    c ≠ '/' ∧ c ≠ Char.ofNat 0 := by
  rw [toList_scratchName, List.mem_append, List.mem_append] at hc
  rcases hc with (hc | hc) | hc
  · have h : ∀ c ∈ "netlock.".toList, c ≠ '/' ∧ c ≠ Char.ofNat 0 := by
      simp
    exact h c hc
  · have hdigit : c.isDigit = true :=
      Nat.isDigit_of_mem_toDigits (by omega) (by omega) hc
    constructor
    · rintro rfl
      simp [Char.isDigit] at hdigit
    · rintro rfl
      simp [Char.isDigit] at hdigit
  · have h : ∀ c ∈ ".conf".toList, c ≠ '/' ∧ c ≠ Char.ofNat 0 := by
      simp
    exact h c hc

/-- The name of a scratch file starts with a letter, so it is no dot and no pair of dots. -/
theorem scratchName_ne
    (n : Nat) {s : String} (hs : s.toList.head? ≠ some 'n') :
    scratchName n ≠ s := by
  rintro rfl
  simp [toList_scratchName] at hs

theorem ofString_scratchPath (n : Nat) :
    Path.ofString (scratchPath n) = ⟨.slash, Host.scratchDirectory ++ [scratchName n]⟩ := by
  have hpieces : Text.pieces (· == '/') (scratchPath n).toList
      = [[], "tmp".toList, (scratchName n).toList] := by
    rw [toList_scratchPath, ← List.nil_append ('/' :: _),
      Text.pieces_append_cons (by simp) (by simp), Text.pieces_append_cons (by simp) (by simp),
      Text.pieces_of_forall_not]
    intro c hc
    simpa using (ne_of_mem_scratchName hc).1
  have hroot : Path.rootOf (scratchPath n).toList = .slash := by
    rw [toList_scratchPath]
    rfl
  have hempty := scratchName_ne n (s := "") (by decide)
  have hdot := scratchName_ne n (s := ".") (by decide)
  simp [Path.ofString, hpieces, hroot, hempty, hdot, Host.scratchDirectory]

/-- Printing the path of a scratch file gives its spelling. -/
theorem toString_ofString_scratchPath (n : Nat) :
    (Path.ofString (scratchPath n)).toString = scratchPath n := by
  rw [ofString_scratchPath]
  simp [Path.toString, Host.scratchDirectory, Text.joinWith, Root.toString, scratchPath, scratchName,
    ← String.append_assoc]

end Action

namespace Host

open Killswitch.Action

theorem hasNull_scratchPath (n : Nat) :
    hasNull (Path.ofString (scratchPath n)) = false := by
  have h : Char.ofNat 0 ∉ (scratchPath n).toList := by
    rw [toList_scratchPath]
    intro hc
    rcases List.mem_cons.1 hc with hc | hc
    · exact absurd hc (by decide)
    · rcases List.mem_append.1 hc with hc | hc
      · exact absurd hc (by decide)
      · rcases List.mem_cons.1 hc with hc | hc
        · exact absurd hc (by decide)
        · exact (ne_of_mem_scratchName hc).2 rfl
  rw [hasNull, toString_ofString_scratchPath]
  simpa using h

theorem place_scratchPath (h : Host) (n : Nat) :
    h.place (Path.ofString (scratchPath n)) = scratchDirectory ++ [scratchName n] := by
  have hdots := scratchName_ne n (s := "..") (by decide)
  rw [place, ofString_scratchPath]
  simp [Path.resolve, Path.stepUp, scratchDirectory, hdots]

end Host

/-! ## Putting and removing entries -/

namespace FileSystem

variable {fs : FileSystem} {parts other : List String} {node : Node}

theorem lookup_remove_self :
    (fs.remove parts).entries.lookup parts = none := by
  rw [List.lookup_eq_none_iff]
  intro e he
  have hne := (List.mem_filter.1 he).2
  simpa using Ne.symm (by simpa using hne)

theorem lookup_remove_ne
    (h : other ≠ parts) :
    (fs.remove parts).entries.lookup other = fs.entries.lookup other := by
  obtain ⟨entries⟩ := fs
  simp only [remove]
  induction entries with
  | nil =>
      rfl
  | cons e entries ih =>
      obtain ⟨key, found⟩ := e
      by_cases hkey : key = parts
      · subst hkey
        simpa [List.lookup_cons, beq_false_of_ne h] using ih
      · simp only [List.filter_cons, bne_iff_ne, ne_eq, hkey, not_false_eq_true, if_true,
          List.lookup_cons, ih]

theorem lookup_put_self :
    (fs.put parts node).entries.lookup parts = some node := by
  simp [put, List.lookup_append, lookup_remove_self]

theorem lookup_put_ne
    (h : other ≠ parts) :
    (fs.put parts node).entries.lookup other = fs.entries.lookup other := by
  simp [put, List.lookup_append, lookup_remove_ne h, List.lookup_cons, beq_false_of_ne h]

/-- Where there is no entry, nothing is removed. -/
theorem remove_eq_self
    (h : fs.entries.lookup parts = none) :
    fs.remove parts = fs := by
  obtain ⟨entries⟩ := fs
  simp only [remove, FileSystem.mk.injEq, List.filter_eq_self]
  intro e he
  have hne := List.lookup_eq_none_iff.1 h e he
  simpa using Ne.symm (by simpa using hne)

theorem remove_put_self
    (fs : FileSystem) (parts : List String) (node : Node) :
    (fs.put parts node).remove parts = fs.remove parts := by
  simp [put, remove]

/-- What is put later takes the place of what was put before. -/
theorem put_put
    (fs : FileSystem) (parts : List String) (first node : Node) :
    (fs.put parts first).put parts node = fs.put parts node := by
  simp [put, remove]

theorem node?_put_self
    (fs : FileSystem) (parts : List String) (node : Node) :
    (fs.put parts node).node? parts = some node := by
  simp [node?, lookup_put_self]

/-- A directory stays one when an entry is put below it. -/
theorem node?_put_directory
    (parts : List String) (node : Node) {refusal : Option SystemError}
    (h : fs.node? other = some (.directory refusal))
    (hne : other ≠ parts)
    (hbelow : other.isPrefixOf parts = true) :
    ∃ r, (fs.put parts node).node? other = some (.directory r) := by
  rw [node?, lookup_put_ne hne]
  cases hl : fs.entries.lookup other with
  | some found =>
      exact ⟨refusal, by simpa [node?, hl] using h⟩
  | none =>
      refine ⟨none, if_pos (.inr ?_)⟩
      exact List.any_eq_true.2 ⟨(parts, node), by simp [put], hbelow⟩

/-- What a walk leads to stands at its end. -/
theorem node?_of_walk
    {name : String} {before rest : List String}
    (h : fs.walk name before rest = .ok node) :
    fs.node? (before ++ rest) = some node := by
  induction rest generalizing before with
  | nil =>
      rw [List.append_nil]
      cases hnode : fs.node? before with
      | none =>
          simp [walk, hnode] at h
      | some found =>
          cases found <;> simp_all [walk]
  | cons part rest ih =>
      rw [List.append_cons]
      cases hnode : fs.node? before with
      | none =>
          simp [walk, hnode] at h
      | some found =>
          cases found with
          | directory refusal =>
              exact ih (by simpa only [walk, hnode] using h)
          | file bytes refusal =>
              simp [walk, hnode] at h
          | unreachable e =>
              simp [walk, hnode] at h
end FileSystem

/-! ## The scratch directory -/

namespace Host

/-- The scratch directory is there and can be reached. -/
def HasScratchDirectory (h : Host) : Prop :=
  ∃ refusal, h.files.find "/tmp" scratchDirectory = .ok (.directory refusal)

/-- The root and the scratch directory are directories where the latter can be reached. -/
theorem HasScratchDirectory.nodes
    {h : Host} (hdir : h.HasScratchDirectory) :
    (∃ r, h.files.node? [] = some (.directory r))
      ∧ ∃ r, h.files.node? scratchDirectory = some (.directory r) := by
  obtain ⟨refusal, hfind⟩ := hdir
  simp only [FileSystem.find, scratchDirectory, FileSystem.walk, List.nil_append] at hfind
  split at hfind <;> try contradiction
  rename_i r hroot
  split at hfind <;> try contradiction
  rename_i hnode
  cases hfind
  exact ⟨⟨r, hroot⟩, ⟨refusal, hnode⟩⟩

/-- What is put into a scratch file is read from it. -/
theorem read_put_scratch
    {h : Host} (hdir : h.HasScratchDirectory) (n : Nat) (bytes : List UInt8) :
    let parts := scratchDirectory ++ [Action.scratchName n]
    ({ h with files := h.files.put parts (.file bytes none) } : Host).read
      (Path.ofString (Action.scratchPath n)) = .ok bytes := by
  intro parts
  obtain ⟨⟨r, hroot⟩, ⟨q, htmp⟩⟩ := hdir.nodes
  obtain ⟨r', hroot'⟩ := FileSystem.node?_put_directory parts (.file bytes none)
    hroot (by simp [parts]) (by simp [parts])
  obtain ⟨q', htmp'⟩ := FileSystem.node?_put_directory parts (.file bytes none)
    htmp (by simp [parts]) (by simp [parts, scratchDirectory])
  have hself := FileSystem.node?_put_self h.files parts (.file bytes none)
  have hfind : ∀ name, (h.files.put parts (.file bytes none)).find name parts
      = .ok (.file bytes none) := by
    intro name
    simp only [parts, scratchDirectory, List.cons_append, List.nil_append] at hroot' htmp' hself
    simp only [parts, scratchDirectory, FileSystem.find, FileSystem.walk, List.cons_append,
      List.nil_append, hroot', htmp', hself]
  rw [read, hasNull_scratchPath, place_scratchPath]
  simp only [FileSystem.read]
  rw [hfind]
  rfl

/-- Nothing else than what was put into a scratch file is read from it. -/
theorem eq_of_read_put_scratch
    (h : Host) (n : Nat) {bytes found : List UInt8} :
    let parts := scratchDirectory ++ [Action.scratchName n]
    ({ h with files := h.files.put parts (.file bytes none) } : Host).read
        (Path.ofString (Action.scratchPath n)) = .ok found →
      found = bytes := by
  intro parts hread
  rw [read, hasNull_scratchPath, place_scratchPath] at hread
  simp only [Bool.false_eq_true, if_false, FileSystem.read] at hread
  split at hread
  · contradiction
  · rename_i hfind
    have hnode := FileSystem.node?_of_walk hfind
    rw [List.nil_append, FileSystem.node?_put_self] at hnode
    cases hnode
    exact (Except.ok.inj hread).symm
  · contradiction
  · contradiction
  · contradiction
end Host

/-! ## Scratch files that are there -/

namespace FileSystem

/-- An entry directly below some components has its name among those below them. -/
theorem mem_namesBelow
    {fs : FileSystem} {parts : List String} {name : String} {node : Node}
    (h : fs.entries.lookup (parts ++ [name]) = some node) :
    name ∈ fs.namesBelow parts := by
  obtain ⟨before, after, hentries, -⟩ := List.lookup_eq_some_iff.1 h
  rw [namesBelow, List.mem_eraseDups, List.mem_filterMap]
  exact ⟨(parts ++ [name], node), by simp [hentries], by simp⟩

theorem mem_filesBelow_iff
    {fs : FileSystem} {parts : List String} {name : String} :
    name ∈ fs.filesBelow parts
      ↔ (fs.entries.lookup (parts ++ [name])).any Node.isFile = true := by
  rw [filesBelow, inOrder, List.mem_mergeSort, List.mem_filter]
  refine ⟨And.right, ?_⟩
  intro h
  refine ⟨?_, h⟩
  cases hl : fs.entries.lookup (parts ++ [name]) with
  | none =>
      simp [hl] at h
  | some node =>
      exact mem_namesBelow hl

end FileSystem

namespace Host

open Killswitch.Action

/-- A scratch file is there if and only if there is a file under its name in the scratch directory. -/
theorem mem_scratchFiles_iff
    {h : Host} {n : Nat} :
    scratchPath n ∈ h.scratchFiles
      ↔ (h.files.entries.lookup (scratchDirectory ++ [scratchName n])).any Node.isFile = true := by
  have hpath : scratchPath n = "/tmp/" ++ scratchName n := by
    simp [scratchPath, scratchName, ← String.append_assoc]
  have hname : "netlock.".toList.isPrefixOf (scratchName n).toList = true := by
    simp [toList_scratchName]
  rw [scratchFiles, hpath, List.mem_map]
  constructor
  · rintro ⟨name, hmem, heq⟩
    have hsame : name = scratchName n := by
      simpa using heq
    rw [hsame] at hmem
    exact FileSystem.mem_filesBelow_iff.1 (List.mem_filter.1 hmem).1
  · intro hfile
    exact ⟨scratchName n, List.mem_filter.2 ⟨FileSystem.mem_filesBelow_iff.2 hfile, hname⟩, rfl⟩

end Host
end Killswitch
