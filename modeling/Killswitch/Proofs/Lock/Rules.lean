import Killswitch.Proofs.Host.Scratch
import Killswitch.Proofs.Lock.Check

/-!
# Runs with a ruleset file

A ruleset file is a scratch file with the next number. It is made empty, filled, named to the filter, and
removed. Each of these requests to the host may fail, and what is then left depends on the kind of fault:
a fault of the operating system is answered by a removal, other faults of the writing are passed on.

**Results.**
* `Standing.holding`, `Standing.spent`, `Standing.dropping`: the next scratch file is there, has been
  removed, or was to be removed;
* `writeRules_runs`, `writeRules_runs_of_create`, `writeRules_runs_of_write`: how a ruleset file is made;
* `removeRules_runs`, `discardRules_runs`: how it is removed;
* `loadRules_runs`, `textOf_holding`: the load of a ruleset file, and the text that is loaded.
-/

namespace Killswitch

open Killswitch.Action

namespace Standing

def nextPath (s : Standing) : String :=
  scratchPath (s.scratchFiles + 1)

def nextPlace (s : Standing) : List String :=
  Host.scratchDirectory ++ [scratchName (s.scratchFiles + 1)]

/-- The standing with the next scratch file and what it holds. -/
def holding (s : Standing) (bytes : List UInt8) : Standing :=
  { s with
    host := { s.host with files := s.host.files.put s.nextPlace (.file bytes none) }
    scratchFiles := s.scratchFiles + 1 }

/-- The standing after the next scratch file was there. -/
def spent (s : Standing) : Standing :=
  { s with
    host := { s.host with files := s.host.files.remove s.nextPlace }
    scratchFiles := s.scratchFiles + 1 }

/-- The standing after the next scratch file was to be removed. -/
def dropping (s : Standing) (bytes : List UInt8) : Standing :=
  match s.host.scratch.remove with
  | none => s.spent
  | some _ => s.holding bytes

/-- The standing after the next scratch file could not be written: it is to be removed if and only if the
operating system has refused. -/
def unwritten (s : Standing) : Fault → Standing
  | .system _ => s.dropping []
  | _ => s.holding []

theorem unwritten_eq_holding
    (s : Standing) {f : Fault} (hf : ∀ e, f ≠ .system e) :
    s.unwritten f = s.holding [] := by
  cases f with
  | system e =>
      exact absurd rfl (hf e)
  | encoding text =>
      rfl
  | listing =>
      rfl
  | interrupt =>
      rfl

/-- The place of the next scratch file is free. -/
def Fresh (s : Standing) : Prop :=
  s.host.files.entries.lookup s.nextPlace = none

/-- Where the place was free, nothing is left of a scratch file that is gone. -/
theorem spent_eq
    {s : Standing} (h : s.Fresh) :
    s.spent = { s with scratchFiles := s.scratchFiles + 1 } := by
  rw [spent, FileSystem.remove_eq_self h]

theorem Knows.holding
    {s : Standing} {binary program : String} {bytes : List UInt8}
    (h : s.Knows binary program) :
    (s.holding bytes).Knows binary program :=
  h

theorem parts_nextPath (s : Standing) :
    (Path.ofString s.nextPath).parts = s.nextPlace := by
  rw [nextPath, ofString_scratchPath]
  rfl

end Standing

/-! ## Requests about a scratch file -/

namespace Action

variable {s : Standing}

theorem createScratch_runs
    (hcreate : s.host.scratch.create = none) :
    Runs createScratch s (.ok (.ok s.nextPath)) (s.holding []) [] := by
  intro j
  refine ⟨[], ?_, rfl⟩
  rw [createScratch, host_bind_run, show (s.machine j).host = s.host from rfl, hcreate]
  simp only [Standing.holding, ← Standing.parts_nextPath, List.append_nil]
  rfl

theorem createScratch_runs_of_fault
    {f : Fault} (hcreate : s.host.scratch.create = some f) :
    Runs createScratch s (.ok (.error f)) s [] := by
  intro j
  refine ⟨[], ?_, rfl⟩
  rw [createScratch, host_bind_run, show (s.machine j).host = s.host from rfl, hcreate, List.append_nil]
  rfl

theorem writeScratch_runs
    (text : String)
    (hwrite : s.host.scratch.write = none) :
    Runs (writeScratch s.nextPath text) (s.holding []) (.ok (.ok ()))
      (s.holding (Text.Utf8.encode text.toList)) [] := by
  intro j
  refine ⟨[], ?_, rfl⟩
  rw [writeScratch, host_bind_run, show ((s.holding []).machine j).host = (s.holding []).host from rfl,
    show (s.holding []).host.scratch.write = none from hwrite]
  simp only [Standing.parts_nextPath, List.append_nil]
  have hfiles := FileSystem.put_put s.host.files s.nextPlace (.file [] none)
    (.file (Text.Utf8.encode text.toList) none)
  simp only [Standing.holding, ← hfiles]
  rfl

theorem writeScratch_runs_of_fault
    {f : Fault} (text : String)
    (hwrite : s.host.scratch.write = some f) :
    Runs (writeScratch s.nextPath text) (s.holding []) (.ok (.error f)) (s.holding []) [] := by
  intro j
  refine ⟨[], ?_, rfl⟩
  rw [writeScratch, host_bind_run, show ((s.holding []).machine j).host = (s.holding []).host from rfl,
    show (s.holding []).host.scratch.write = some f from hwrite, List.append_nil]
  rfl

/-- What the host answers to the removal of a scratch file. -/
def removed (path : String) : Option Fault → Except Fault Unit
  | none => .ok ()
  | some (.system e) => .error (.system (e.about path))
  | some f => .error f

theorem removeScratch_runs
    (bytes : List UInt8) :
    Runs (removeScratch s.nextPath) (s.holding bytes)
      (.ok (removed s.nextPath s.host.scratch.remove)) (s.dropping bytes) [] := by
  intro j
  refine ⟨[.removal s.nextPath], ?_, rfl⟩
  rw [removeScratch, bind_run, enter_run]
  dsimp only
  rw [host_bind_run]
  dsimp only [Standing.machine, Standing.holding, Standing.dropping]
  rcases s.host.scratch.remove with _ | e | e | e | e
  · simp only [Standing.parts_nextPath]
    have hfiles := FileSystem.remove_put_self s.host.files s.nextPlace (.file bytes none)
    simp only [Standing.spent, ← hfiles]
    rfl
  · rfl
  · rfl
  · rfl
  · rfl

end Action

/-! ## The ruleset file -/

namespace Lock

variable {s : Standing}

/-- How the removal of a ruleset file ends: that it is gone already is no failure. -/
def removal (path : String) : Option Fault → Except Failure Unit
  | none => .ok ()
  | some (.system e) =>
      if e.meansGone then .ok ()
      else .error (resource ("cannot remove " ++ path ++ ": " ++ (e.about path).message))
  | some f => .error (.ofFault f)

/-- How the removal of a ruleset file after a failure ends: faults of the operating system are passed
over. -/
def discarding : Option Fault → Except Failure Unit
  | none => .ok ()
  | some (.system _) => .ok ()
  | some f => .error (.ofFault f)

theorem removal_eq_ok_iff
    (path : String) {remove : Option Fault} :
    removal path remove = .ok ()
      ↔ remove = none ∨ ∃ e, remove = some (.system e) ∧ e.code = 2 := by
  rcases remove with _ | e | e | e | e
  · simp [removal]
  · simp [removal, SystemError.meansGone]
  · simp [removal]
  · simp [removal]
  · simp [removal]

theorem removeRules_runs
    (bytes : List UInt8) :
    Runs (removeRules s.nextPath) (s.holding bytes)
      (removal s.nextPath s.host.scratch.remove) (s.dropping bytes) [] := by
  refine (Runs.bind (e := []) (removeScratch_runs bytes) ?_).of_eq rfl rfl
  rcases s.host.scratch.remove with _ | e | e | e | e
  · exact .pure ()
  · unfold removal removed
    dsimp only
    rw [show (e.about s.nextPath).meansGone = e.meansGone from rfl]
    split
    · exact .pure ()
    · exact .throw _
  · exact .throw _
  · exact .throw _
  · exact .throw _

/-- Removing a ruleset file after a failure leaves the same standing as removing it after a load. -/
theorem discardRules_runs
    (bytes : List UInt8) :
    Runs (discardRules s.nextPath) (s.holding bytes)
      (discarding s.host.scratch.remove) (s.dropping bytes) [] := by
  refine (Runs.bind (e := []) (removeRules_runs bytes).attempt ?_).of_eq rfl rfl
  rcases s.host.scratch.remove with _ | e | e | e | e
  · exact .pure ()
  · unfold removal
    dsimp only
    by_cases hgone : e.meansGone = true
    · rw [if_pos hgone]
      exact .pure ()
    · rw [if_neg hgone]
      exact .remark _ _ _
  · exact .throw _
  · exact .throw _
  · exact .throw _

/-- The failure of a run that could not create its ruleset file. -/
def createFailure : Fault → Failure
  | .system e => resource ("cannot create temporary ruleset file: " ++ e.message)
  | f => .ofFault f

/-- The failure of a run that could not write its ruleset file. -/
def writeFailure (path : String) (remove : Option Fault) : Fault → Failure
  | .system e =>
      match discarding remove with
      | .ok () => resource ("cannot write " ++ path ++ ": " ++ e.message)
      | .error f => f
  | f => .ofFault f

theorem writeRules_runs
    (rules : String)
    (hcreate : s.host.scratch.create = none)
    (hwrite : s.host.scratch.write = none) :
    Runs (writeRules rules) s (.ok s.nextPath) (s.holding (Text.Utf8.encode rules.toList)) [] := by
  refine (Runs.bind (e := []) (createScratch_runs hcreate) ?_).of_eq rfl rfl
  refine (Runs.bind (e := []) (writeScratch_runs rules hwrite) ?_).of_eq rfl rfl
  exact Runs.bind (e := []) (Runs.remark _ _ _) (.pure s.nextPath)

theorem writeRules_runs_of_create
    {f : Fault} (rules : String)
    (hcreate : s.host.scratch.create = some f) :
    Runs (writeRules rules) s (.error (createFailure f)) s [] := by
  refine (Runs.bind (e := []) (createScratch_runs_of_fault hcreate) ?_).of_eq rfl rfl
  cases f <;> exact .throw _

theorem writeRules_runs_of_write
    {f : Fault} (rules : String)
    (hcreate : s.host.scratch.create = none)
    (hwrite : s.host.scratch.write = some f) :
    Runs (writeRules rules) s (.error (writeFailure s.nextPath s.host.scratch.remove f))
      (s.unwritten f) [] := by
  refine (Runs.bind (e := []) (createScratch_runs hcreate) ?_).of_eq rfl rfl
  refine (Runs.bind (e := []) (writeScratch_runs_of_fault rules hwrite) ?_).of_eq rfl rfl
  cases f with
  | system e =>
      have hdiscard := discardRules_runs (s := s) []
      unfold writeFailure
      cases hend : discarding s.host.scratch.remove with
      | ok _ =>
          rw [hend] at hdiscard
          exact (hdiscard.bind (.throw _)).of_eq rfl rfl
      | error g =>
          rw [hend] at hdiscard
          exact hdiscard.bind_error
  | encoding text =>
      exact .throw _
  | listing =>
      exact .throw _
  | interrupt =>
      exact .throw _

/-- The load of a ruleset file that holds some bytes. -/
theorem loadRules_runs
    {binary program : String} (bytes : List UInt8)
    (h : s.Knows binary program) :
    Runs (Engine.load binary s.nextPath) (s.holding bytes)
      (Engine.loaded program s.nextPath s.host) (s.holding bytes)
      (Journal.ofCalls (Engine.relocations binary program
        ++ [.load (Engine.loadCommand program s.nextPath)
              (Engine.textOf (s.holding bytes).host s.nextPath)])) :=
  (Engine.load_runs h.holding (Host.hasNull_scratchPath _)).of_eq rfl rfl

/-- The text of a ruleset file is the one whose bytes it holds, where the scratch directory is there. -/
theorem textOf_holding
    (bytes : List UInt8)
    (hdir : s.host.HasScratchDirectory) :
    Engine.textOf (s.holding bytes).host s.nextPath
      = some (String.ofList (Text.Utf8.decodeLossy bytes)) := by
  have hread := Host.read_put_scratch hdir (s.scratchFiles + 1) bytes
  have hread' : (s.holding bytes).host.read (Path.ofString s.nextPath) = .ok bytes :=
    hread
  rw [Engine.textOf, hread']

/-- Nothing else than what a ruleset file holds is read from it. -/
theorem eq_of_textOf_holding
    {bytes : List UInt8} {text : String}
    (h : Engine.textOf (s.holding bytes).host s.nextPath = some text) :
    text = String.ofList (Text.Utf8.decodeLossy bytes) := by
  unfold Engine.textOf at h
  split at h
  · rename_i found hread
    rw [← Option.some.inj h, Host.eq_of_read_put_scratch s.host (s.scratchFiles + 1) hread]
  · contradiction

end Lock
end Killswitch
