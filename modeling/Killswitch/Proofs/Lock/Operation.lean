import Killswitch.Proofs.Lock.Rules

/-!
# Runs of the operations

The lock is put on or taken off after all checks. Where one of them stops the run, nothing has been
changed. Where all hold, the ruleset is made and loaded, or the baseline is loaded.

**Results.**
* `EnableCourse`: the four courses that putting the lock on can take, with what each of them requests;
* `exists_enableCourse`, `EnableCourse.runs`: one of them is taken, and it is how the operation runs;
* `EnableCourse.loads_iff`, `EnableCourse.load_eq`: when a course loads something, and what it loads;
* `enable_orderly`: the requests of a run that puts the lock on, and when it ends well;
* `disable_runs_of_stop`, `disable_runs_of_load`: the runs that take the lock off;
* `LoadsBaseline`, `exists_disable_runs`: what such a run loads;
* `probe_runs_of_none`, `probe_runs_of_some`: the runs of a question about the filter.
-/

namespace Killswitch

open Killswitch.Action

namespace Lock

variable {s : Standing} {binary program : String} {p : Policy}

/-- What all checks together request. -/
def clearing (binary : String) (h : Host) : List Call :=
  Check.all.flatMap (Check.calls binary h)

theorem Cleared.lookup
    {h : Host}
    (hcleared : Cleared binary p h) :
    ∃ program, h.programs.lookup binary = some program := by
  obtain ⟨program, hprogram, -⟩ := cleared_iff.1 hcleared
  exact ⟨program, hprogram⟩

/-! ## Putting the lock on -/

theorem enable_runs_of_stop
    {earlier later : List Check} {c : Check} {f : Failure}
    (hall : Check.all = earlier ++ c :: later)
    (hholds : ∀ d ∈ earlier, d.verdict binary p s.host = .ok true)
    (hstop : c.outcome binary p s.host = .error f) :
    Runs (enable binary p) s (.error f) (s.locating binary)
      (Journal.ofCalls ((earlier ++ [c]).flatMap (Check.calls binary s.host))) :=
  (check_runs_of_stop hall hholds hstop).bind_error

theorem enable_runs_of_create
    {f : Fault}
    (hcleared : Cleared binary p s.host)
    (hcreate : s.host.scratch.create = some f) :
    Runs (enable binary p) s (.error (createFailure f)) (s.locating binary)
      (Journal.ofCalls (clearing binary s.host)) := by
  have hwrite := writeRules_runs_of_create (s := s.locating binary) p.ruleset hcreate
  exact ((check_runs_of_holds hcleared).bind hwrite.bind_error).of_eq rfl (by simp [clearing])

theorem enable_runs_of_write
    {f : Fault}
    (hcleared : Cleared binary p s.host)
    (hcreate : s.host.scratch.create = none)
    (hwrite : s.host.scratch.write = some f) :
    Runs (enable binary p) s (.error (writeFailure s.nextPath s.host.scratch.remove f))
      ((s.locating binary).unwritten f)
      (Journal.ofCalls (clearing binary s.host)) := by
  have hrules := writeRules_runs_of_write (s := s.locating binary) p.ruleset hcreate hwrite
  exact ((check_runs_of_holds hcleared).bind hrules.bind_error).of_eq rfl (by simp [clearing])

/-- How putting the lock on ends once the ruleset was handed to the filter, which has answered it. -/
def enabling (path : String) (remove : Option Fault) (answer : Except Failure String) :
    Except Failure State :=
  match answer with
  | .ok _ => (removal path remove).map (fun _ => .locked)
  | .error f =>
      match discarding remove with
      | .ok () => .error f
      | .error g => .error g

/-- The file that is named to the filter when the lock is put on. -/
def rulesBytes (p : Policy) : List UInt8 :=
  Text.Utf8.encode p.ruleset.toList

/-- The requests for a load of a file whose text is given. -/
def loading (binary program file : String) (text : Option String) : List Call :=
  Engine.relocations binary program ++ [.load (Engine.loadCommand program file) text]

/-- The ruleset is loaded if and only if all checks hold and the ruleset file could be made. -/
theorem enable_runs_of_load
    (hcleared : Cleared binary p s.host)
    (hprogram : s.host.programs.lookup binary = some program)
    (hcreate : s.host.scratch.create = none)
    (hwrite : s.host.scratch.write = none) :
    Runs (enable binary p) s
      (enabling s.nextPath s.host.scratch.remove (Engine.loaded program s.nextPath s.host))
      ((s.locating binary).dropping (rulesBytes p))
      (Journal.ofCalls (clearing binary s.host
        ++ loading binary program s.nextPath
            (Engine.textOf (s.holding (rulesBytes p)).host s.nextPath))) := by
  have hrules := writeRules_runs (s := s.locating binary) p.ruleset hcreate hwrite
  have hload := (loadRules_runs (s := s.locating binary) (rulesBytes p)
    (Standing.knows_locating hprogram)).attempt
  rw [Journal.ofCalls_append]
  refine (check_runs_of_holds hcleared).bind (Runs.bind (d := []) hrules ?_)
  refine (hload.bind (e := []) ?_).of_eq rfl (by rw [List.append_nil]; rfl)
  rw [show Engine.loaded program (s.locating binary).nextPath (s.locating binary).host
    = Engine.loaded program s.nextPath s.host from rfl]
  unfold enabling
  cases Engine.loaded program s.nextPath s.host with
  | error f =>
      have hdiscard := discardRules_runs (s := s.locating binary) (rulesBytes p)
      cases hend : discarding s.host.scratch.remove with
      | ok _ =>
          exact Runs.bind (e := []) (hdiscard.of_eq hend rfl) (.throw _)
      | error g =>
          exact (hdiscard.of_eq hend rfl).bind_error
  | ok output =>
      have hremove := removeRules_runs (s := s.locating binary) (rulesBytes p)
      cases hend : removal s.nextPath s.host.scratch.remove with
      | ok _ =>
          refine Runs.bind (e := []) (hremove.of_eq hend rfl) ?_
          exact Runs.bind (e := []) (Runs.remark _ _ _)
            (Runs.bind (e := []) (Runs.remark _ _ _) (.pure _))
      | error g =>
          exact (hremove.of_eq hend rfl).bind_error

theorem load_mem_loading
    {file : String} {text : Option String} {calls : List Call} :
    Call.load (Engine.loadCommand program file) text ∈ calls ++ loading binary program file text := by
  simp [loading]

theorem not_load_mem_relocations
    {arguments : List String} {text : Option String} :
    Call.load arguments text ∉ Engine.relocations binary program := by
  unfold Engine.relocations
  split <;> simp

theorem not_load_mem_calls
    {h : Host} {c : Check} {arguments : List String} {text : Option String} :
    Call.load arguments text ∉ c.calls binary h := by
  cases c with
  | program =>
      simp [Check.calls]
  | superuser =>
      simp [Check.calls]
  | baseline =>
      simp [Check.calls]
  | enabled =>
      simpa [Check.calls] using not_load_mem_relocations

/-- Checks load nothing. -/
theorem not_load_mem_flatMap
    {h : Host} {checks : List Check} {arguments : List String} {text : Option String} :
    Call.load arguments text ∉ checks.flatMap (Check.calls binary h) := by
  intro hmem
  obtain ⟨c, -, hc⟩ := List.mem_flatMap.1 hmem
  exact not_load_mem_calls hc

/-- Behind the checks, nothing but the file is loaded. -/
theorem eq_of_load_mem
    {h : Host} {checks : List Check} {file : String} {arguments : List String}
    {text content : Option String}
    (hload : .load arguments text
      ∈ checks.flatMap (Check.calls binary h) ++ loading binary program file content) :
    arguments = Engine.loadCommand program file ∧ text = content := by
  rcases List.mem_append.1 hload with hload | hload
  · exact absurd hload not_load_mem_flatMap
  · rcases List.mem_append.1 hload with hload | hload
    · exact absurd hload not_load_mem_relocations
    · exact Call.load.inj (List.mem_singleton.1 hload)

/-! ## The courses of putting the lock on -/

/-- The courses that putting the lock on can take: a check stops it, the ruleset file cannot be created or
not be written, or it is loaded. Each comes with its outcome, the standing after it, and its requests. -/
inductive EnableCourse (binary : String) (p : Policy) (s : Standing) :
    Except Failure State → Standing → List Call → Prop where
  | stopped {earlier later : List Check} {c : Check} {f : Failure}
      (hall : Check.all = earlier ++ c :: later)
      (hholds : ∀ d ∈ earlier, d.verdict binary p s.host = .ok true)
      (hstop : c.outcome binary p s.host = .error f) :
      EnableCourse binary p s (.error f) (s.locating binary)
        ((earlier ++ [c]).flatMap (Check.calls binary s.host))
  | uncreated {f : Fault}
      (hcleared : Cleared binary p s.host)
      (hcreate : s.host.scratch.create = some f) :
      EnableCourse binary p s (.error (createFailure f)) (s.locating binary)
        (clearing binary s.host)
  | unwritten {f : Fault}
      (hcleared : Cleared binary p s.host)
      (hcreate : s.host.scratch.create = none)
      (hwrite : s.host.scratch.write = some f) :
      EnableCourse binary p s (.error (writeFailure s.nextPath s.host.scratch.remove f))
        ((s.locating binary).unwritten f) (clearing binary s.host)
  | loaded {program : String}
      (hcleared : Cleared binary p s.host)
      (hprogram : s.host.programs.lookup binary = some program)
      (hcreate : s.host.scratch.create = none)
      (hwrite : s.host.scratch.write = none) :
      EnableCourse binary p s
        (enabling s.nextPath s.host.scratch.remove (Engine.loaded program s.nextPath s.host))
        ((s.locating binary).dropping (rulesBytes p))
        (clearing binary s.host ++ loading binary program s.nextPath
          (Engine.textOf (s.holding (rulesBytes p)).host s.nextPath))

/-- One of the courses is taken. -/
theorem exists_enableCourse
    (binary : String) (p : Policy) (s : Standing) :
    ∃ o t calls, EnableCourse binary p s o t calls := by
  rcases cleared_or_stop binary p s.host with
    hcleared | ⟨earlier, c, later, f, hall, hholds, hstop⟩
  · cases hcreate : s.host.scratch.create with
    | some f =>
        exact ⟨_, _, _, .uncreated hcleared hcreate⟩
    | none =>
        cases hwrite : s.host.scratch.write with
        | some f =>
            exact ⟨_, _, _, .unwritten hcleared hcreate hwrite⟩
        | none =>
            obtain ⟨program, hprogram⟩ := hcleared.lookup
            exact ⟨_, _, _, .loaded hcleared hprogram hcreate hwrite⟩
  · exact ⟨_, _, _, .stopped hall hholds hstop⟩

namespace EnableCourse

variable {o : Except Failure State} {t : Standing} {calls : List Call}

/-- Putting the lock on runs as its course says. -/
theorem runs
    (h : EnableCourse binary p s o t calls) :
    Runs (enable binary p) s o t (Journal.ofCalls calls) := by
  cases h with
  | stopped hall hholds hstop =>
      exact enable_runs_of_stop hall hholds hstop
  | uncreated hcleared hcreate =>
      exact enable_runs_of_create hcleared hcreate
  | unwritten hcleared hcreate hwrite =>
      exact enable_runs_of_write hcleared hcreate hwrite
  | loaded hcleared hprogram hcreate hwrite =>
      exact enable_runs_of_load hcleared hprogram hcreate hwrite

/-- What is loaded is the ruleset file: the control program is given its path, and it has the text of then. -/
theorem load_eq
    {arguments : List String} {text : Option String}
    (h : EnableCourse binary p s o t calls)
    (hload : .load arguments text ∈ calls) :
    ∃ program, s.host.programs.lookup binary = some program
      ∧ arguments = Engine.loadCommand program s.nextPath
      ∧ text = Engine.textOf (s.holding (rulesBytes p)).host s.nextPath := by
  cases h with
  | stopped hall hholds hstop =>
      exact absurd hload not_load_mem_flatMap
  | uncreated hcleared hcreate =>
      exact absurd hload not_load_mem_flatMap
  | unwritten hcleared hcreate hwrite =>
      exact absurd hload not_load_mem_flatMap
  | loaded hcleared hprogram hcreate hwrite =>
      exact ⟨_, hprogram, eq_of_load_mem hload⟩

/-- A course loads something if and only if all checks hold and the ruleset file can be made. -/
theorem loads_iff
    (h : EnableCourse binary p s o t calls) :
    (∃ arguments text, .load arguments text ∈ calls)
      ↔ Cleared binary p s.host ∧ s.host.scratch.create = none ∧ s.host.scratch.write = none := by
  cases h with
  | stopped hall hholds hstop =>
      refine ⟨fun ⟨_, _, hload⟩ => absurd hload not_load_mem_flatMap, fun ⟨hcleared, _⟩ => ?_⟩
      exact absurd hcleared (not_cleared_of_stop hall hstop)
  | uncreated hcleared hcreate =>
      refine ⟨fun ⟨_, _, hload⟩ => absurd hload not_load_mem_flatMap, fun ⟨_, hnone, _⟩ => ?_⟩
      rw [hcreate] at hnone
      contradiction
  | unwritten hcleared hcreate hwrite =>
      refine ⟨fun ⟨_, _, hload⟩ => absurd hload not_load_mem_flatMap, fun ⟨_, _, hnone⟩ => ?_⟩
      rw [hwrite] at hnone
      contradiction
  | loaded hcleared hprogram hcreate hwrite =>
      exact ⟨fun _ => ⟨hcleared, hcreate, hwrite⟩, fun _ => ⟨_, _, load_mem_loading⟩⟩

/-- A course that loads nothing fails. -/
theorem fails_of_not_loads
    (h : EnableCourse binary p s o t calls)
    (hnot : ¬ ∃ arguments text, .load arguments text ∈ calls) :
    ∃ f, o = .error f := by
  cases h with
  | stopped hall hholds hstop =>
      exact ⟨_, rfl⟩
  | uncreated hcleared hcreate =>
      exact ⟨_, rfl⟩
  | unwritten hcleared hcreate hwrite =>
      exact ⟨_, rfl⟩
  | loaded hcleared hprogram hcreate hwrite =>
      exact absurd ⟨_, _, load_mem_loading⟩ hnot

end EnableCourse

/-! ## The order of requests -/

theorem disable_runs_of_stop
    {earlier later : List Check} {c : Check} {f : Failure}
    (hall : Check.all = earlier ++ c :: later)
    (hholds : ∀ d ∈ earlier, d.verdict binary p s.host = .ok true)
    (hstop : c.outcome binary p s.host = .error f) :
    Runs (disable binary p) s (.error f) (s.locating binary)
      (Journal.ofCalls ((earlier ++ [c]).flatMap (Check.calls binary s.host))) :=
  (check_runs_of_stop hall hholds hstop).bind_error

/-- A path that leads to something has no null character. -/
theorem hasNull_of_holds
    {h : Host} {path : Path}
    (hholds : h.holds path = .ok true) :
    Host.hasNull path = false := by
  cases hnull : Host.hasNull path with
  | false =>
      rfl
  | true =>
      simp [Host.holds, Host.ask, hnull] at hholds

/-- The baseline is loaded if and only if all checks hold. -/
theorem disable_runs_of_load
    (hcleared : Cleared binary p s.host)
    (hprogram : s.host.programs.lookup binary = some program) :
    Runs (disable binary p) s
      ((Engine.loaded program p.baseline s.host).map (fun _ => .restored))
      (s.locating binary)
      (Journal.ofCalls (clearing binary s.host
        ++ loading binary program p.baseline (Engine.textOf s.host p.baseline))) := by
  obtain ⟨-, -, -, hthere, -⟩ := cleared_iff.1 hcleared
  have hload := Engine.load_runs (s := s.locating binary) (Standing.knows_locating hprogram)
    (hasNull_of_holds hthere)
  rw [Journal.ofCalls_append]
  refine (check_runs_of_holds hcleared).bind ?_
  cases hend : Engine.loaded program p.baseline s.host with
  | error f =>
      exact (hload.of_eq hend rfl).bind_error
  | ok output =>
      refine (Runs.bind (e := []) (hload.of_eq hend rfl) ?_).of_eq rfl (by rw [List.append_nil]; rfl)
      exact Runs.bind (e := []) (Runs.remark _ _ _)
        (Runs.bind (e := []) (Runs.remark _ _ _) (.pure _))

/-- Some requests load nothing but the baseline of a policy, and only where all checks hold: the control
program is given its path, and it has the text of then. -/
def LoadsBaseline (binary : String) (p : Policy) (h : Host) (calls : List Call) : Prop :=
  ∀ arguments text, .load arguments text ∈ calls →
    Cleared binary p h
      ∧ ∃ program, h.programs.lookup binary = some program
        ∧ arguments = Engine.loadCommand program p.baseline
        ∧ text = Engine.textOf h p.baseline

theorem exists_disable_runs
    (binary : String) (p : Policy) (s : Standing) :
    ∃ (o : Except Failure State) (t : Standing) (calls : List Call),
      Runs (disable binary p) s o t (Journal.ofCalls calls) ∧ LoadsBaseline binary p s.host calls := by
  rcases cleared_or_stop binary p s.host with
    hcleared | ⟨earlier, c, later, f, hall, hholds, hstop⟩
  · obtain ⟨program, hprogram⟩ := hcleared.lookup
    exact ⟨_, _, _, disable_runs_of_load hcleared hprogram,
      fun _ _ hload => ⟨hcleared, program, hprogram, eq_of_load_mem hload⟩⟩
  · exact ⟨_, _, _, disable_runs_of_stop hall hholds hstop,
      fun _ _ hload => absurd hload not_load_mem_flatMap⟩

/-! ## Questions about the filter -/

/-- What a report shows of the lock. -/
def shown (report : String) : State :=
  if saysEnabled report then .unknown else .disabledOrAbsent

theorem shown_eq_unknown_iff
    {report : String} :
    shown report = .unknown ↔ saysEnabled report = true := by
  unfold shown
  cases saysEnabled report <;> simp

theorem probe_runs_of_none
    (hprogram : s.host.programs.lookup binary = none) :
    Runs (probe binary) s (.ok .disabledOrAbsent) (s.locating binary)
      (Journal.ofCalls [.locate binary]) := by
  refine (Runs.bind (e := []) (Engine.locate_runs s binary) ?_).of_eq rfl (List.append_nil _)
  rw [hprogram]
  exact .pure _

theorem probe_runs_of_some
    (hprogram : s.host.programs.lookup binary = some program) :
    Runs (probe binary) s ((Engine.reported program s.host).map shown) (s.locating binary)
      (Journal.ofCalls (.locate binary :: Check.enabled.calls binary s.host)) := by
  have hasked := isEnabled_runs (Standing.knows_locating hprogram)
  refine (Runs.bind (Engine.locate_runs s binary) ?_).of_eq rfl rfl
  rw [hprogram]
  simp only [Check.calls, hprogram, Option.getD_some]
  cases hend : Engine.reported program s.host with
  | error f =>
      exact (hasked.of_eq (by rw [Standing.locating_host, hend]; rfl) rfl).bind_error
  | ok report =>
      refine (Runs.bind (x := saysEnabled report) (e := [])
        (hasked.of_eq (by rw [Standing.locating_host, hend]; rfl) rfl)
        (.pure (shown report))).of_eq rfl (List.append_nil _)

end Lock
end Killswitch
