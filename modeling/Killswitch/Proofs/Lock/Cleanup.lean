import Killswitch.Proofs.Lock.Asking
import Killswitch.Proofs.Lock.Operation
import Killswitch.Proofs.Lock.Session

/-!
# Cleaning up behind a load

Whatever becomes of a ruleset file, it is set out to be removed once. A removal that the operating system
refuses is a failure of its own where nothing else has failed. Behind another failure it is only warned about,
so that what has failed first is what is reported.

**Traces.** Which removals are tried and what is warned about does not show in the deeds of a run. These
entries are its *traces*. Questions, loads and the making of a file leave none; so the traces of putting the
lock on are those of the one removal that it ends with.

**Results.**
* `Journal.traces`, `Action.Marks`: removals and warnings, and the traces that an action leaves;
* `Marks.bind`, `Marks.bind_error`: traces of composed actions, whose runs are known;
* `removeRules_marks`, `discardRules_marks`, `writeRules_marks`: what work on a ruleset file leaves;
* `enable_marks_of_write`, `enable_marks_of_load`: what putting the lock on leaves;
* `enable_cleans_up`: its outcome, its warnings and its removals, whatever is refused.
-/

namespace Killswitch

open Killswitch.Action

/-! ## Traces -/

/-- Whether an entry is a removal or a warning. -/
def Event.isTrace : Event → Bool
  | .remark r => r.level = .warning
  | .removal _ => true
  | _ => false

namespace Journal

def traces (j : Journal) : Journal :=
  j.filter Event.isTrace

@[simp] theorem traces_append
    (j k : Journal) :
    traces (j ++ k) = traces j ++ traces k := by
  simp [traces]

theorem removals_traces
    (j : Journal) :
    removals (traces j) = removals j := by
  rw [removals, traces, List.filterMap_filter]
  congr 1
  funext e
  cases e <;> simp [Event.isTrace]

theorem warnings_traces
    (j : Journal) :
    warnings (traces j) = warnings j := by
  induction j with
  | nil =>
      rfl
  | cons e j ih =>
      cases e with
      | remark r =>
          by_cases hr : r.level = .warning
          · simpa [traces, warnings, records, Event.isTrace, hr] using ih
          · simpa [traces, warnings, records, Event.isTrace, hr] using ih
      | call c =>
          exact ih
      | notice text =>
          exact ih
      | output text =>
          exact ih
      | removal path =>
          exact ih

end Journal

namespace Action

variable {α β : Type}

/-- From a standing, whatever the journal holds, an action leaves the traces `k`. -/
def Marks (a : Action α) (s : Standing) (k : Journal) : Prop :=
  ∀ j : Journal, (a (s.machine j)).2.journal.traces = j.traces ++ k

namespace Marks

variable {s t : Standing} {d k l : Journal}

theorem of_eq
    {a : Action α} (h : Marks a s k) (hk : k = l) :
    Marks a s l :=
  hk ▸ h

theorem of_keeps
    {a : Action α} (h : Keeps (fun m => m.journal.traces) a) :
    Marks a s [] := by
  intro j
  rw [List.append_nil]
  exact h (s.machine j)

theorem throw (f : Failure) :
    Marks (MonadExcept.throw f : Action α) s [] :=
  of_keeps (.throw f)

theorem pure (x : α) :
    Marks (Pure.pure x) s [] :=
  of_keeps (.pure x)

theorem enter (e : Event) :
    Marks (Action.enter e) s (Journal.traces [e]) := by
  intro j
  exact Journal.traces_append j [e]

/-- Where an action ends well, what it leaves is followed by what the next one leaves. -/
theorem bind
    {a : Action α} {f : α → Action β} {x : α}
    (ha : Runs a s (.ok x) t d)
    (hk : Marks a s k) (hl : Marks (f x) t l) :
    Marks (a >>= f) s (k ++ l) := by
  intro j
  obtain ⟨entered, hrun, -⟩ := ha j
  have hfirst := hk j
  have hsecond := hl (j ++ entered)
  rw [hrun] at hfirst
  rw [bind_run, hrun]
  dsimp only
  rw [hsecond, show (j ++ entered).traces = j.traces ++ k from hfirst, List.append_assoc]

/-- Where an action fails, nothing follows what it leaves. -/
theorem bind_error
    {a : Action α} {f : α → Action β} {e : Failure}
    (ha : Runs a s (.error e) t d)
    (hk : Marks a s k) :
    Marks (a >>= f) s k := by
  intro j
  obtain ⟨entered, hrun, -⟩ := ha j
  have hfirst := hk j
  rw [hrun] at hfirst
  rw [bind_run, hrun]
  exact hfirst

theorem attempt
    {a : Action α} (hk : Marks a s k) :
    Marks (Action.attempt a) s k := by
  intro j
  rw [attempt_run]
  exact hk j

/-- What is seen of the traces that an action leaves. -/
theorem observe_eq
    {a : Action α} {m : Machine}
    (h : Marks a m.standing k) :
    (a.observe m).1.journal.removals = k.removals
      ∧ (a.observe m).1.journal.warnings = k.warnings := by
  have htraces : (a.observe m).1.journal.traces = k := h []
  rw [← Journal.removals_traces, ← Journal.warnings_traces, htraces]
  exact ⟨rfl, rfl⟩

end Marks
end Action

/-- Remarks that do not warn and requests leave no traces. -/
theorem unconcerned_traces :
    Unconcerned (fun m => m.journal.traces) where
  located _ _ := rfl
  remark m r hr := by
    have hnone : Journal.traces [.remark r] = [] := by
      simp [Journal.traces, Event.isTrace, hr]
    exact (Journal.traces_append m.journal _).trans (by rw [hnone, List.append_nil])
  locate m _ := (Journal.traces_append m.journal _).trans (List.append_nil _)
  run m _ _ := (Journal.traces_append m.journal _).trans (List.append_nil _)

theorem Engine.load_marks
    {s : Standing} (binary file : String) :
    Marks (load binary file) s [] :=
  .of_keeps (load_keeps unconcerned_traces
    (fun m _ _ => (Journal.traces_append m.journal _).trans (List.append_nil _)) binary file)

theorem createScratch_marks
    {s : Standing} :
    Marks createScratch s [] := by
  refine .of_keeps (Keeps.host.bind (fun h => ?_))
  cases h.scratch.create with
  | some f =>
      exact .pure _
  | none =>
      intro m
      rfl

theorem writeScratch_marks
    {s : Standing} (path text : String) :
    Marks (writeScratch path text) s [] := by
  refine .of_keeps (Keeps.host.bind (fun h => ?_))
  cases h.scratch.write with
  | some f =>
      exact .pure _
  | none =>
      intro m
      rfl

theorem removeScratch_marks
    {s : Standing} (path : String) :
    Marks (removeScratch path) s [.removal path] := by
  refine Marks.bind (Runs.enter _) (.enter _) (.of_keeps (Keeps.host.bind (fun h => ?_)))
  rcases h.scratch.remove with _ | e | e | e | e
  · intro m
    rfl
  · exact .pure _
  · exact .pure _
  · exact .pure _
  · exact .pure _

/-! ## The ruleset file -/

namespace Lock

variable {s : Standing} {binary program : String} {p : Policy}

theorem removeRules_marks
    (bytes : List UInt8) :
    Marks (removeRules s.nextPath) (s.holding bytes) [.removal s.nextPath] := by
  refine Marks.bind (l := []) (removeScratch_runs bytes) (removeScratch_marks _) ?_
  rcases s.host.scratch.remove with _ | e | e | e | e
  · exact .pure ()
  · unfold removed
    dsimp only
    split
    · exact .pure ()
    · exact .throw _
  · exact .throw _
  · exact .throw _
  · exact .throw _

/-- The warnings about a removal that has failed. -/
def misgivings : Except Failure Unit → Journal
  | .error (.diagnostic d) => [.remark ⟨.warning, origin, d.message⟩]
  | _ => []

/-- What removing a ruleset file after a failure leaves: the removal, and a warning if it fails. -/
def discardMarks (path : String) (remove : Option Fault) : Journal :=
  .removal path :: misgivings (removal path remove)

theorem discardRules_marks
    (bytes : List UInt8) :
    Marks (discardRules s.nextPath) (s.holding bytes) (discardMarks s.nextPath s.host.scratch.remove) := by
  refine Marks.bind (removeRules_runs bytes).attempt (removeRules_marks bytes).attempt ?_
  cases removal s.nextPath s.host.scratch.remove with
  | ok _ =>
      exact .pure ()
  | error f =>
      cases f with
      | diagnostic d =>
          exact .enter _
      | _ =>
          exact .throw _

/-- A failure that was there before is passed on behind the removal, unless that is itself interrupted. -/
theorem discardRules_throw_marks
    {α : Type} (bytes : List UInt8) (f : Failure) :
    Marks (discardRules s.nextPath >>= fun _ => (throw f : Action α)) (s.holding bytes)
      (discardMarks s.nextPath s.host.scratch.remove) := by
  have hruns := discardRules_runs (s := s) bytes
  have hmarks := discardRules_marks (s := s) bytes
  cases hend : discarding s.host.scratch.remove with
  | ok _ =>
      rw [hend] at hruns
      exact (Marks.bind (l := []) hruns hmarks (.throw f)).of_eq (List.append_nil _)
  | error g =>
      rw [hend] at hruns
      exact Marks.bind_error hruns hmarks

theorem writeRules_marks
    (rules : String)
    (hcreate : s.host.scratch.create = none)
    (hwrite : s.host.scratch.write = none) :
    Marks (writeRules rules) s [] := by
  refine Marks.bind (l := []) (createScratch_runs hcreate) createScratch_marks ?_
  refine Marks.bind (l := []) (writeScratch_runs rules hwrite) (writeScratch_marks _ _) ?_
  exact Marks.bind (Runs.remark _ _ _) (.enter _) (.pure _)

/-- The ruleset file that could not be written is removed. -/
theorem writeRules_marks_of_write
    {e : SystemError} (rules : String)
    (hcreate : s.host.scratch.create = none)
    (hwrite : s.host.scratch.write = some (.system e)) :
    Marks (writeRules rules) s (discardMarks s.nextPath s.host.scratch.remove) := by
  refine Marks.bind (k := []) (createScratch_runs hcreate) createScratch_marks ?_
  refine Marks.bind (k := []) (writeScratch_runs_of_fault rules hwrite) (writeScratch_marks _ _) ?_
  exact discardRules_throw_marks [] _

/-! ## Putting the lock on -/

theorem check_marks
    (binary : String) (p : Policy) :
    Marks (check binary p) s [] :=
  .of_keeps (check_keeps unconcerned_traces binary p)

theorem enable_marks_of_write
    {e : SystemError}
    (hcleared : Cleared binary p s.host)
    (hcreate : s.host.scratch.create = none)
    (hwrite : s.host.scratch.write = some (.system e)) :
    Marks (enable binary p) s (discardMarks s.nextPath s.host.scratch.remove) := by
  have hruns := writeRules_runs_of_write (s := s.locating binary) p.ruleset hcreate hwrite
  have hmarks := writeRules_marks_of_write (s := s.locating binary) p.ruleset hcreate hwrite
  exact Marks.bind (k := []) (check_runs_of_holds hcleared) (check_marks binary p)
    (Marks.bind_error hruns hmarks)

/-- What the removal behind a load leaves: after a load that has failed it is only warned about. -/
def loadMarks (path : String) (remove : Option Fault) : Except Failure String → Journal
  | .ok _ => [.removal path]
  | .error _ => discardMarks path remove

theorem enable_marks_of_load
    (hcleared : Cleared binary p s.host)
    (hprogram : s.host.programs.lookup binary = some program)
    (hcreate : s.host.scratch.create = none)
    (hwrite : s.host.scratch.write = none) :
    Marks (enable binary p) s
      (loadMarks s.nextPath s.host.scratch.remove (Engine.loaded program s.nextPath s.host)) := by
  have hrules := writeRules_runs (s := s.locating binary) p.ruleset hcreate hwrite
  have hload := (loadRules_runs (s := s.locating binary) (rulesBytes p)
    (Standing.knows_locating hprogram)).attempt
  refine Marks.bind (k := []) (check_runs_of_holds hcleared) (check_marks binary p) ?_
  refine Marks.bind (k := []) hrules (writeRules_marks _ hcreate hwrite) ?_
  refine Marks.bind (k := []) hload (Engine.load_marks _ _).attempt ?_
  rw [show Engine.loaded program (s.locating binary).nextPath (s.locating binary).host
    = Engine.loaded program s.nextPath s.host from rfl]
  cases Engine.loaded program s.nextPath s.host with
  | error f =>
      exact discardRules_throw_marks (s := s.locating binary) (rulesBytes p) f
  | ok output =>
      have hruns := removeRules_runs (s := s.locating binary) (rulesBytes p)
      have hmarks := removeRules_marks (s := s.locating binary) (rulesBytes p)
      cases hend : removal s.nextPath s.host.scratch.remove with
      | ok _ =>
          refine Marks.bind (l := []) (hruns.of_eq hend rfl) hmarks ?_
          exact Marks.bind (Runs.remark _ _ _) (.enter _)
            (Marks.bind (Runs.remark _ _ _) (.enter _) (.pure _))
      | error g =>
          exact Marks.bind_error (hruns.of_eq hend rfl) hmarks

/-! ## What is seen of it -/

/-- A request about scratch files is granted, or refused by the operating system. -/
def Ordinary (answer : Option Fault) : Prop :=
  ∀ f, answer = some f → ∃ e, f = .system e

/-- A removal is granted, or the file is gone already. -/
def Removable (h : Host) : Prop :=
  h.scratch.remove = none ∨ ∃ e, h.scratch.remove = some (.system e) ∧ e.code = 2

/-- A removal is refused with an error that does not say that the file is gone. -/
def Irremovable (h : Host) (e : SystemError) : Prop :=
  h.scratch.remove = some (.system e) ∧ e.code ≠ 2

/-- What is said about a removal that is refused. -/
def complaint (path : String) (e : SystemError) : String :=
  "cannot remove " ++ path ++ ": " ++ (e.about path).message

/-- A removal behind a failure is warned about once if it is refused, and not at all otherwise. -/
def Warned (h : Host) (path : String) (warnings : List String) : Prop :=
  (Removable h → warnings = []) ∧ (∀ e, Irremovable h e → warnings = ["resource: " ++ complaint path e])

section Seen

variable {h : Host} {path : String}

theorem removal_of_removable
    (hremovable : Removable h) :
    removal path h.scratch.remove = .ok () :=
  (removal_eq_ok_iff path).2 hremovable

theorem removal_of_irremovable
    {e : SystemError} (hirremovable : Irremovable h e) :
    removal path h.scratch.remove = .error (resource (complaint path e)) := by
  have hthere : ¬ e.meansGone = true := by
    simpa [SystemError.meansGone] using hirremovable.2
  rw [hirremovable.1, removal, if_neg hthere, complaint]

theorem discarding_of_ordinary
    {remove : Option Fault} (hremove : Ordinary remove) :
    discarding remove = .ok () := by
  cases remove with
  | none =>
      rfl
  | some f =>
      obtain ⟨e, rfl⟩ := hremove f rfl
      rfl

theorem writeFailure_of_ordinary
    {remove : Option Fault} (hremove : Ordinary remove) (e : SystemError) :
    writeFailure path remove (.system e) = resource ("cannot write " ++ path ++ ": " ++ e.message) := by
  rw [writeFailure, discarding_of_ordinary hremove]

theorem enabling_of_ordinary
    {remove : Option Fault} (hremove : Ordinary remove) (f : Failure) :
    enabling path remove (.error f) = .error f := by
  rw [enabling, discarding_of_ordinary hremove]

theorem enabling_of_removable
    (hremovable : Removable h) (output : String) :
    enabling path h.scratch.remove (.ok output) = .ok .locked := by
  rw [enabling, removal_of_removable hremovable]
  rfl

theorem enabling_of_irremovable
    {e : SystemError} (hirremovable : Irremovable h e) (output : String) :
    enabling path h.scratch.remove (.ok output) = .error (resource (complaint path e)) := by
  rw [enabling, removal_of_irremovable hirremovable]
  rfl

theorem warned_discardMarks :
    Warned h path (discardMarks path h.scratch.remove).warnings := by
  constructor
  · intro hremovable
    rw [discardMarks, removal_of_removable hremovable]
    rfl
  · intro e hirremovable
    rw [discardMarks, removal_of_irremovable hirremovable]
    rfl

theorem removals_discardMarks
    (remove : Option Fault) :
    (discardMarks path remove).removals = [path] := by
  unfold discardMarks misgivings
  split <;> rfl

theorem removals_loadMarks
    (remove : Option Fault) (answer : Except Failure String) :
    (loadMarks path remove answer).removals = [path] := by
  cases answer with
  | ok output =>
      rfl
  | error f =>
      exact removals_discardMarks remove

/-- A file that is removed is gone. -/
theorem not_mem_scratchFiles_of_dropping
    {s : Standing} (bytes : List UInt8)
    (hremove : s.host.scratch.remove = none) :
    s.nextPath ∉ (s.dropping bytes).host.scratchFiles := by
  intro hmem
  rw [Standing.dropping, hremove] at hmem
  have hthere := Host.mem_scratchFiles_iff.1 hmem
  have hgone : s.spent.host.files.entries.lookup
      (Host.scratchDirectory ++ [scratchName (s.scratchFiles + 1)]) = none :=
    FileSystem.lookup_remove_self
  rw [hgone] at hthere
  contradiction

end Seen

/-- Where all checks hold and the ruleset file is created, its removal hides nothing. If the file cannot be
written, that is what is reported, and nothing is loaded. If the load fails, its failure is what is reported.
In both cases a removal that is refused is warned about once. If the load succeeds, the lock is on unless the
removal is refused, which is then reported. The file is always removed once, and it is gone if the removal is
granted. -/
theorem enable_cleans_up
    {m : Machine}
    (hcleared : Cleared binary p m.host)
    (hprogram : m.host.programs.lookup binary = some program)
    (hcreate : m.host.scratch.create = none)
    (hwrite : Ordinary m.host.scratch.write)
    (hremove : Ordinary m.host.scratch.remove) :
    let path := m.standing.nextPath
    let seen := ((enable binary p).observe m).1
    (∀ e, m.host.scratch.write = some (.system e) →
        seen.outcome = .error (resource ("cannot write " ++ path ++ ": " ++ e.message))
          ∧ ¬ Journal.Loads seen.journal
          ∧ Warned m.host path seen.journal.warnings)
      ∧ (m.host.scratch.write = none →
          (∃ text, .load (Engine.loadCommand program path) text ∈ seen.journal.calls)
            ∧ (∀ f, Engine.loaded program path m.host = .error f →
                seen.outcome = .error f ∧ Warned m.host path seen.journal.warnings)
            ∧ (∀ output, Engine.loaded program path m.host = .ok output →
                seen.journal.warnings = []
                  ∧ (Removable m.host → seen.outcome = .ok .locked)
                  ∧ ∀ e, Irremovable m.host e → seen.outcome = .error (resource (complaint path e))))
      ∧ seen.journal.removals = [path]
      ∧ (m.host.scratch.remove = none → path ∉ seen.scratchFiles) := by
  intro path seen
  have hcalls : ∀ calls, seen.journal.deeds = Journal.ofCalls calls → seen.journal.calls = calls := by
    intro calls hdeeds
    rw [← Journal.calls_deeds, hdeeds, Journal.calls_ofCalls]
  cases hanswer : m.host.scratch.write with
  | some f =>
      obtain ⟨e, rfl⟩ := hwrite f hanswer
      obtain ⟨houtcome, hdeeds, hfiles, -⟩ :=
        (enable_runs_of_write (s := m.standing) hcleared hcreate hanswer).observe_eq
      obtain ⟨hremovals, hwarnings⟩ :=
        (enable_marks_of_write (s := m.standing) hcleared hcreate hanswer).observe_eq
      refine ⟨?_, by simp, hremovals.trans (removals_discardMarks _), fun hnone => ?_⟩
      · rintro e ⟨⟩
        refine ⟨houtcome.trans (congrArg _ (writeFailure_of_ordinary hremove e)), ?_,
          hwarnings ▸ warned_discardMarks⟩
        rintro ⟨arguments, text, hload⟩
        rw [hcalls _ hdeeds] at hload
        exact not_load_mem_flatMap hload
      · rw [hfiles]
        exact not_mem_scratchFiles_of_dropping (s := m.standing.locating binary) [] hnone
  | none =>
      obtain ⟨houtcome, hdeeds, hfiles, -⟩ :=
        (enable_runs_of_load (s := m.standing) hcleared hprogram hcreate hanswer).observe_eq
      obtain ⟨hremovals, hwarnings⟩ :=
        (enable_marks_of_load (s := m.standing) hcleared hprogram hcreate hanswer).observe_eq
      refine ⟨by simp, fun _ => ⟨⟨_, hcalls _ hdeeds ▸ load_mem_loading⟩, fun f hload => ?_, fun output hload => ?_⟩,
        hremovals.trans (removals_loadMarks _ _), fun hnone => ?_⟩
      · rw [show Engine.loaded program m.standing.nextPath m.standing.host = .error f from hload]
          at houtcome hwarnings
        exact ⟨houtcome.trans (enabling_of_ordinary hremove f), hwarnings ▸ warned_discardMarks⟩
      · rw [show Engine.loaded program m.standing.nextPath m.standing.host = .ok output from hload]
          at houtcome hwarnings
        exact ⟨hwarnings, fun hremovable => houtcome.trans (enabling_of_removable hremovable output),
          fun e hirremovable => houtcome.trans (enabling_of_irremovable hirremovable output)⟩
      · rw [hfiles]
        exact not_mem_scratchFiles_of_dropping (s := m.standing.locating binary) (rulesBytes p) hnone

/-- A host on which the user interrupts loads, and scratch files may not be removed. -/
def clutteredHost : Host :=
  { obligingHost with
    load := .fault .interrupt
    scratch := ⟨none, none, some (.system ⟨13, "Permission denied", none⟩)⟩ }

/-- The interruption is what is reported, and the removal is warned about once. -/
theorem clutteredHost_cleans_up :
    let seen := ((enable "pfctl" strictPolicy).observe (.ofHost clutteredHost)).1
    seen.outcome = .error .interrupted
      ∧ seen.journal.warnings = ["resource: " ++ complaint "/tmp/netlock.1.conf" ⟨13, "Permission denied", none⟩]
      ∧ seen.journal.removals = ["/tmp/netlock.1.conf"] := by
  have hwrite : Ordinary clutteredHost.scratch.write := by
    rintro f ⟨⟩
  have hremove : Ordinary clutteredHost.scratch.remove := by
    rintro f ⟨⟩
    exact ⟨_, rfl⟩
  obtain ⟨-, hwritten, hremovals, -⟩ := enable_cleans_up (m := .ofHost clutteredHost)
    obligingHost_cleared rfl rfl hwrite hremove
  obtain ⟨-, hfails, -⟩ := hwritten rfl
  obtain ⟨houtcome, hwarned⟩ := hfails .interrupted rfl
  exact ⟨houtcome, hwarned.2 _ ⟨rfl, by decide⟩, hremovals⟩

end Lock
end Killswitch
