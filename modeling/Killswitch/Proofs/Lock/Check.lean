import Killswitch.Proofs.Action.Run

/-!
# Checks before a load

Four checks come before anything is loaded, in a fixed order. A check shows that its precondition holds
or that it does not, or it fails itself. The first check that does not hold ends the run, so that nothing
is asked for a later one.

**What is remembered.** The first check looks for the control program anew, whatever is remembered of it.
From there on the path that is remembered is the one that the host answers, and an empty path is looked
for again on every run of the program.

**Results.**
* `Check.verdict`, `Check.complaint`, `Check.calls`: what a check shows, reports and requests;
* `check_eq`: the preconditions are the four checks in their order;
* `Check.action_runs`: the run of a check;
* `check_runs_of_holds`, `check_runs_of_stop`: the run of all checks, with or without one that stops it.
-/

namespace Killswitch

open Killswitch.Action

/-! ## Runs of the control program -/

namespace Standing

/-- The standing after the control program has been looked for. -/
def locating (s : Standing) (binary : String) : Standing :=
  { s with located := s.host.programs.lookup binary }

@[simp] theorem locating_host
    (s : Standing) (binary : String) :
    (s.locating binary).host = s.host := by
  rfl

/-- The path of the control program is remembered as the host has it. -/
def Knows (s : Standing) (binary path : String) : Prop :=
  s.located = some path ∧ s.host.programs.lookup binary = some path

theorem Knows.locating_eq
    {s : Standing} {binary path : String}
    (h : s.Knows binary path) :
    s.locating binary = s := by
  obtain ⟨host, scratchFiles, located⟩ := s
  obtain ⟨hlocated, hlookup⟩ := h
  simp only [locating, hlookup]
  exact congrArg _ hlocated.symm

theorem knows_locating
    {s : Standing} {binary path : String}
    (h : s.host.programs.lookup binary = some path) :
    (s.locating binary).Knows binary path :=
  ⟨h, h⟩

end Standing

namespace Engine

variable {s : Standing} {binary program : String}

theorem locate_runs
    (s : Standing) (binary : String) :
    Runs (locate binary) s (.ok (s.host.programs.lookup binary)) (s.locating binary)
      [.call (.locate binary)] := by
  intro j
  exact ⟨_, by rw [List.append_cons]; rfl, rfl⟩

/-- What is requested for a path that is remembered: an empty one is looked for again. -/
def relocations (binary program : String) : List Call :=
  if program = "" then [.locate binary] else []

/-- The path that was found, or the failure that there is none. -/
def given (binary : String) : Option String → Action String
  | some path => pure path
  | none => throw (notFound binary)

/-- The path that is remembered, unless it is empty, or else the path that is found now. -/
def remembered (binary : String) (located : Option String) : Action (Option String) :=
  if located.getD "" = "" then locate binary else pure located

theorem path_eq (binary : String) :
    path binary = get >>= fun m => remembered binary m.located >>= given binary := by
  refine bind_congr (fun m => ?_)
  rw [remembered, ite_bind, pure_bind]
  rfl

theorem path_runs
    (h : s.Knows binary program) :
    Runs (path binary) s (.ok program) s (Journal.ofCalls (relocations binary program)) := by
  have hfound : Runs (remembered binary (some program)) s (.ok (some program)) s
      (Journal.ofCalls (relocations binary program)) := by
    unfold remembered relocations
    by_cases hempty : program = ""
    · rw [if_pos (by simpa using hempty), if_pos hempty]
      have hlocate := locate_runs s binary
      rw [h.2, h.locating_eq] at hlocate
      exact hlocate
    · rw [if_neg (by simpa using hempty), if_neg hempty]
      exact .pure _
  intro j
  obtain ⟨k, hrun, hk⟩ := hfound j
  have hpath : path binary (s.machine j)
      = (remembered binary s.located >>= given binary) (s.machine j) := by
    rw [path_eq]
    rfl
  refine ⟨k, ?_, hk⟩
  rw [hpath, h.1, bind_run, hrun]
  rfl

theorem execute_runs
    {command : List String} {limit : String} {a : Action Run} {run : Run} {d : Journal}
    (ha : Runs a s (.ok run) s d) :
    Runs (execute program command limit a) s (outputOf program command limit run) s d :=
  ((Runs.remark _ _ _).bind (ha.bind (.ofOutcome _))).of_eq rfl (by simp)

/-- A run has an output if and only if it has ended with code zero. -/
theorem outputOf_eq_ok_iff
    {command : List String} {limit output : String} {run : Run} :
    outputOf program command limit run = .ok output ↔ ∃ errors, run = .ended 0 output errors := by
  rcases run with ⟨code, written, errors⟩ | captured | e | e | e | e
  · by_cases hcode : code = 0
    · simp [outputOf, hcode]
    · simp [outputOf, hcode]
  · simp [outputOf]
  · simp [outputOf]
  · simp [outputOf]
  · simp [outputOf]
  · simp [outputOf]

def statusCommand (program : String) : List String :=
  [program, "-s", "info"]

def loadCommand (program file : String) : List String :=
  [program, "-F", "all", "-f", file]

/-- What the filter reports about itself when the control program is under a path, or why there is no
report. -/
def reported (program : String) (h : Host) : Except Failure String :=
  outputOf program (statusCommand program) (toString statusLimit) h.report

/-- What is made of a report: there is one where the control program has ended well. -/
theorem reported_map_eq_ok_iff
    {α : Type} {h : Host} {f : String → α} {x : α} :
    (reported program h).map f = .ok x
      ↔ ∃ output errors, h.report = .ended 0 output errors ∧ f output = x := by
  change f <$> reported program h = .ok x ↔ _
  rw [map_eq_ok_iff]
  simp only [reported, outputOf_eq_ok_iff, exists_and_right]

theorem status_runs
    (h : s.Knows binary program) :
    Runs (status binary) s (reported program s.host) s
      (Journal.ofCalls
        (relocations binary program ++ [.run (statusCommand program) (some statusLimit)])) := by
  have hreport : Runs (report (statusCommand program) statusLimit) s (.ok s.host.report) s
      [.call (.run (statusCommand program) (some statusLimit))] := by
    intro j
    exact ⟨[.call (.run (statusCommand program) (some statusLimit))], rfl, rfl⟩
  rw [Journal.ofCalls_append]
  exact (path_runs h).bind (execute_runs hreport)

/-- The text of the file that a load names, if it can be read. -/
def textOf (h : Host) (file : String) : Option String :=
  match h.read (Path.ofString file) with
  | .ok bytes => some (String.ofList (Text.Utf8.decodeLossy bytes))
  | .error _ => none

/-- What the filter answers to a load of a file, or why it has not been loaded. -/
def loaded (program file : String) (h : Host) : Except Failure String :=
  outputOf program (loadCommand program file) "None" h.load

theorem load_runs
    {file : String}
    (h : s.Knows binary program)
    (hfile : Host.hasNull (Path.ofString file) = false) :
    Runs (load binary file) s (loaded program file s.host) s
      (Journal.ofCalls (relocations binary program
        ++ [.load (loadCommand program file) (textOf s.host file)])) := by
  have hload : Runs (Action.load (loadCommand program file) file) s (.ok s.host.load) s
      [.call (.load (loadCommand program file) (textOf s.host file))] := by
    unfold Action.load textOf
    refine Runs.host.bind ?_
    simp only [Host.read, hfile]
    cases s.host.files.read (Path.ofString file).toString (s.host.place (Path.ofString file)) with
    | ok bytes =>
        exact (Runs.enter _).bind (.pure _)
    | error e =>
        exact (Runs.enter _).bind (.pure _)
  rw [Journal.ofCalls_append]
  exact (path_runs h).bind (execute_runs hload)

end Engine

/-! ## The checks -/

namespace Lock

/-- A check that is made before a load. -/
inductive Check where
  | program
  | superuser
  | baseline
  | enabled
  deriving DecidableEq, Repr

namespace Check

def all : List Check :=
  [.program, .superuser, .baseline, .enabled]

/-- What a check shows on a host, or its own failure. -/
def verdict (binary : String) (p : Policy) (h : Host) : Check → Except Failure Bool
  | .program => .ok (h.programs.lookup binary).isSome
  | .superuser => .ok (h.user = 0)
  | .baseline => (h.holds (Path.ofString p.baseline)).mapError .system
  | .enabled => (Engine.reported ((h.programs.lookup binary).getD "") h).map saysEnabled

/-- What is said where a precondition does not hold. -/
def complaint (binary : String) (p : Policy) : Check → String
  | .program => binary ++ " not found on PATH"
  | .superuser => "root privileges are required for " ++ binary
  | .baseline => "default configuration " ++ p.baseline ++ " does not exist"
  | .enabled => "packet filter is disabled"

/-- What a check requests. -/
def calls (binary : String) (h : Host) : Check → List Call
  | .program => [.locate binary]
  | .superuser => []
  | .baseline => []
  | .enabled =>
      let program := (h.programs.lookup binary).getD ""
      Engine.relocations binary program
        ++ [.run (Engine.statusCommand program) (some Engine.statusLimit)]

/-- How a check ends. -/
def outcome (binary : String) (p : Policy) (h : Host) (c : Check) : Except Failure Unit :=
  match c.verdict binary p h with
  | .ok true => .ok ()
  | .ok false => .error (.diagnostic (.of .precondition (c.complaint binary p)))
  | .error f => .error f

section Outcome

variable {binary : String} {p : Policy} {h : Host} {c : Check}

theorem outcome_of_holds
    (hverdict : c.verdict binary p h = .ok true) :
    c.outcome binary p h = .ok () := by
  rw [outcome, hverdict]

theorem outcome_of_not
    (hverdict : c.verdict binary p h = .ok false) :
    c.outcome binary p h = .error (.diagnostic (.of .precondition (c.complaint binary p))) := by
  rw [outcome, hverdict]

theorem outcome_of_error
    {f : Failure} (hverdict : c.verdict binary p h = .error f) :
    c.outcome binary p h = .error f := by
  rw [outcome, hverdict]

theorem outcome_eq_ok_iff :
    c.outcome binary p h = .ok () ↔ c.verdict binary p h = .ok true := by
  unfold outcome
  rcases c.verdict binary p h with f | _ | _ <;> simp

end Outcome

/-- A check as an action. -/
def action (binary : String) (p : Policy) : Check → Action Unit
  | .program => do
      if (← Engine.locate binary).isNone then throw (Engine.notFound binary)
  | .superuser => do
      if (← host).user ≠ 0 then unmet ("root privileges are required for " ++ binary)
  | .baseline => do
      match (← host).holds (Path.ofString p.baseline) with
      | .error e => throw (.system e)
      | .ok false => unmet ("default configuration " ++ p.baseline ++ " does not exist")
      | .ok true => pure ()
  | .enabled => do
      if !(← isEnabled binary) then unmet "packet filter is disabled"

end Check

/-! ## The checks in their order -/

theorem unmet_bind
    {β : Type} (text : String) (f : Unit → Action β) :
    unmet text >>= f = throw (.diagnostic (.of .precondition text)) := by
  rfl

/-- The preconditions are the four checks in their order. -/
theorem check_eq
    (binary : String) (p : Policy) :
    check binary p = Check.all.forM (Check.action binary p) := by
  simp only [check, Check.all, Check.action, List.forM_eq_forM, List.forM_cons, List.forM_nil,
    bind_assoc, ite_bind, throw_bind, unmet_bind, pure_bind]
  refine bind_congr (fun found => ite_congr rfl (fun _ => rfl) (fun _ => ?_))
  -- the host is asked once in the one form and twice in the other, so both run on a machine
  funext m
  rw [host_bind_run, host_bind_run]
  by_cases huser : m.host.user ≠ 0
  · rw [if_pos huser, if_pos huser]
  · rw [if_neg huser, if_neg huser, host_bind_run]
    rcases m.host.holds (Path.ofString p.baseline) with e | _ | _
    · simp only [throw_bind]
    · simp only [unmet_bind]
    · simp only [pure_bind]
      rfl

/-! ## Runs of checks -/

section Runs

variable {s : Standing} {binary : String} {p : Policy}

theorem isEnabled_runs
    {program : String}
    (h : s.Knows binary program) :
    Runs (isEnabled binary) s ((Engine.reported program s.host).map saysEnabled) s
      (Journal.ofCalls (Engine.relocations binary program
        ++ [.run (Engine.statusCommand program) (some Engine.statusLimit)])) := by
  have hmap : isEnabled binary = saysEnabled <$> Engine.status binary := by
    rw [isEnabled, bind_pure_comp]
  rw [hmap]
  exact (Engine.status_runs h).map

/-- A check can be made: it is the first one, or the control program is known. -/
def Check.Ready (binary : String) (s : Standing) (c : Check) : Prop :=
  c = .program ∨ ∃ program, s.Knows binary program

/-- What a check makes of what it has shown. -/
def Check.settle (binary : String) (p : Policy) (c : Check) : Bool → Action Unit
  | true => pure ()
  | false => throw (.diagnostic (.of .precondition (c.complaint binary p)))

theorem Check.settle_runs
    {c : Check} {h : Host} {holds : Bool}
    (hverdict : c.verdict binary p h = .ok holds) :
    Runs (c.settle binary p holds) s (c.outcome binary p h) s [] := by
  cases holds with
  | true =>
      rw [outcome_of_holds hverdict]
      exact .pure ()
  | false =>
      rw [outcome_of_not hverdict]
      exact .throw _

theorem Check.superuser_runs :
    Runs (Check.superuser.action binary p) s (Check.superuser.outcome binary p s.host) s [] := by
  refine (Runs.host.bind (e := []) ?_).of_eq rfl rfl
  have hverdict : Check.superuser.verdict binary p s.host = .ok (decide (s.host.user = 0)) := rfl
  have hsettled := settle_runs (s := s) hverdict
  by_cases huser : s.host.user = 0
  · rw [if_neg (by simpa using huser)]
    rwa [decide_eq_true huser] at hsettled
  · rw [if_pos huser]
    rwa [decide_eq_false huser] at hsettled

theorem Check.baseline_runs :
    Runs (Check.baseline.action binary p) s (Check.baseline.outcome binary p s.host) s [] := by
  refine (Runs.host.bind (e := []) ?_).of_eq rfl rfl
  have hverdict : Check.baseline.verdict binary p s.host
      = (s.host.holds (Path.ofString p.baseline)).mapError .system := rfl
  cases hholds : s.host.holds (Path.ofString p.baseline) with
  | error e =>
      rw [outcome_of_error (hverdict.trans (congrArg (Except.mapError Failure.system) hholds))]
      exact .throw _
  | ok there =>
      have hsettled := settle_runs (s := s)
        (hverdict.trans (congrArg (Except.mapError Failure.system) hholds))
      cases there with
      | false =>
          exact hsettled
      | true =>
          exact hsettled

theorem Check.enabled_runs
    {program : String}
    (hknows : s.Knows binary program) :
    Runs (Check.enabled.action binary p) s (Check.enabled.outcome binary p s.host) s
      (Journal.ofCalls (Check.enabled.calls binary s.host)) := by
  have hasked := isEnabled_runs hknows
  have hverdict : Check.enabled.verdict binary p s.host
      = (Engine.reported program s.host).map saysEnabled := by
    rw [verdict, hknows.2]
    rfl
  have hcalls : Check.enabled.calls binary s.host = Engine.relocations binary program
      ++ [.run (Engine.statusCommand program) (some Engine.statusLimit)] := by
    simp only [calls, hknows.2, Option.getD_some]
  rw [hcalls]
  cases hend : (Engine.reported program s.host).map saysEnabled with
  | error f =>
      rw [outcome_of_error (hverdict.trans hend)]
      exact (hasked.of_eq hend rfl).bind_error
  | ok marked =>
      refine ((hasked.of_eq hend rfl).bind (e := []) ?_).of_eq rfl (List.append_nil _)
      have hsettled := settle_runs (s := s) (hverdict.trans hend)
      cases marked with
      | false =>
          exact hsettled
      | true =>
          exact hsettled

/-- The run of a check. It changes nothing but what is remembered of the control program. -/
theorem Check.action_runs
    {c : Check}
    (hready : c.Ready binary s) :
    Runs (c.action binary p) s (c.outcome binary p s.host) (s.locating binary)
      (Journal.ofCalls (c.calls binary s.host)) := by
  cases c with
  | program =>
      refine ((Engine.locate_runs _ _).bind (t := s.locating binary) (e := []) ?_).of_eq rfl rfl
      have hverdict : Check.program.verdict binary p s.host
          = .ok (s.host.programs.lookup binary).isSome := rfl
      have hsettled := settle_runs (s := s.locating binary) hverdict
      cases hlookup : s.host.programs.lookup binary with
      | none =>
          rwa [hlookup] at hsettled
      | some program =>
          rwa [hlookup] at hsettled
  | superuser =>
      obtain ⟨program, hknows⟩ := hready.resolve_left (by simp)
      rw [hknows.locating_eq]
      exact superuser_runs
  | baseline =>
      obtain ⟨program, hknows⟩ := hready.resolve_left (by simp)
      rw [hknows.locating_eq]
      exact baseline_runs
  | enabled =>
      obtain ⟨program, hknows⟩ := hready.resolve_left (by simp)
      rw [hknows.locating_eq]
      exact enabled_runs hknows

/-- The standing after a check is one in which all checks can be made. -/
theorem Check.ready_locating
    {c d : Check}
    (hready : c.Ready binary s)
    (hholds : c.verdict binary p s.host = .ok true) :
    d.Ready binary (s.locating binary) := by
  rcases hready with rfl | ⟨program, hknows⟩
  · obtain ⟨program, hlookup⟩ : ∃ program, s.host.programs.lookup binary = some program := by
      simpa [verdict, Option.isSome_iff_exists] using hholds
    exact .inr ⟨program, Standing.knows_locating hlookup⟩
  · exact .inr ⟨program, by rwa [hknows.locating_eq]⟩

/-- Checks that hold are made one after the other. -/
theorem forM_action_runs_of_holds
    (c : Check) (later : List Check)
    (hready : c.Ready binary s)
    (hholds : ∀ d ∈ c :: later, d.verdict binary p s.host = .ok true) :
    Runs ((c :: later).forM (Check.action binary p)) s (.ok ()) (s.locating binary)
      (Journal.ofCalls ((c :: later).flatMap (Check.calls binary s.host))) := by
  induction later generalizing c s with
  | nil =>
      have hc := hholds c List.mem_cons_self
      have hrun := (Check.action_runs hready).of_eq (Check.outcome_of_holds hc) rfl
      exact (hrun.bind (.pure _)).of_eq rfl (by simp)
  | cons d later ih =>
      have hc := hholds c List.mem_cons_self
      have hrest := ih (s := s.locating binary) d (Check.ready_locating hready hc)
        (fun e he => hholds e (List.mem_cons_of_mem c he))
      have hrun := (Check.action_runs hready).of_eq (Check.outcome_of_holds hc) rfl
      exact (hrun.bind hrest).of_eq rfl (by simp [Journal.ofCalls_append])

/-- The first check that does not hold ends the run; no later one is made. -/
theorem forM_action_runs_of_stop
    (earlier : List Check) (c : Check) (later : List Check) {f : Failure}
    (hready : ∀ d ∈ (earlier ++ [c]).head?, d.Ready binary s)
    (hholds : ∀ d ∈ earlier, d.verdict binary p s.host = .ok true)
    (hstop : c.outcome binary p s.host = .error f) :
    Runs ((earlier ++ c :: later).forM (Check.action binary p)) s (.error f) (s.locating binary)
      (Journal.ofCalls ((earlier ++ [c]).flatMap (Check.calls binary s.host))) := by
  induction earlier generalizing s with
  | nil =>
      have hc := Check.action_runs (p := p) (hready c (by simp))
      exact (Runs.bind_error (hc.of_eq hstop rfl)).of_eq rfl (by simp)
  | cons d earlier ih =>
      have hd := hholds d List.mem_cons_self
      have hdready := hready d (by simp)
      have hrest := ih (s := s.locating binary) (fun e _ => Check.ready_locating hdready hd)
        (fun e he => hholds e (List.mem_cons_of_mem d he)) hstop
      have hrun := (Check.action_runs hdready).of_eq (Check.outcome_of_holds hd) rfl
      exact (hrun.bind hrest).of_eq rfl (by simp [Journal.ofCalls_append])

/-- All checks hold on a host. -/
def Cleared (binary : String) (p : Policy) (h : Host) : Prop :=
  ∀ c ∈ Check.all, c.verdict binary p h = .ok true

/-- Where all checks hold, each of them is made. -/
theorem check_runs_of_holds
    (hcleared : Cleared binary p s.host) :
    Runs (check binary p) s (.ok ()) (s.locating binary)
      (Journal.ofCalls (Check.all.flatMap (Check.calls binary s.host))) := by
  rw [check_eq]
  exact forM_action_runs_of_holds .program _ (.inl rfl) hcleared

/-- Where a check does not hold but all before it do, it is the last one that is made. -/
theorem check_runs_of_stop
    {earlier later : List Check} {c : Check} {f : Failure}
    (hall : Check.all = earlier ++ c :: later)
    (hholds : ∀ d ∈ earlier, d.verdict binary p s.host = .ok true)
    (hstop : c.outcome binary p s.host = .error f) :
    Runs (check binary p) s (.error f) (s.locating binary)
      (Journal.ofCalls ((earlier ++ [c]).flatMap (Check.calls binary s.host))) := by
  rw [check_eq, hall]
  refine forM_action_runs_of_stop earlier c later ?_ hholds hstop
  intro d hd
  have hfirst : Check.all.head? = (earlier ++ [c]).head? := by
    rw [hall]
    cases earlier <;> rfl
  rw [← hfirst] at hd
  exact .inl (by simpa [Check.all] using hd.symm)

end Runs

/-! ## Clearance -/

section Clearance

variable {binary : String} {p : Policy} {h : Host}

/-- Either all checks hold, or there is a first one that does not. -/
theorem cleared_or_stop
    (binary : String) (p : Policy) (h : Host) :
    Cleared binary p h
      ∨ ∃ earlier c later f, Check.all = earlier ++ c :: later
          ∧ (∀ d ∈ earlier, d.verdict binary p h = .ok true)
          ∧ c.outcome binary p h = .error f := by
  have hlist : ∀ cs : List Check, (∀ c ∈ cs, c.verdict binary p h = .ok true)
      ∨ ∃ earlier c later f, cs = earlier ++ c :: later
          ∧ (∀ d ∈ earlier, d.verdict binary p h = .ok true)
          ∧ c.outcome binary p h = .error f := by
    intro cs
    induction cs with
    | nil =>
        exact .inl (by simp)
    | cons c cs ih =>
        cases hc : c.outcome binary p h with
        | error f =>
            exact .inr ⟨[], c, cs, f, rfl, by simp, hc⟩
        | ok _ =>
            have hverdict := Check.outcome_eq_ok_iff.1 hc
            rcases ih with hall | ⟨earlier, d, later, f, rfl, hholds, hstop⟩
            · exact .inl (by simpa [hverdict] using hall)
            · exact .inr ⟨c :: earlier, d, later, f, rfl, by simpa [hverdict] using hholds, hstop⟩
  exact hlist Check.all

theorem not_cleared_of_stop
    {earlier later : List Check} {c : Check} {f : Failure}
    (hall : Check.all = earlier ++ c :: later)
    (hstop : c.outcome binary p h = .error f) :
    ¬ Cleared binary p h := by
  intro hcleared
  have hc := Check.outcome_of_holds (hcleared c (by simp [hall]))
  rw [hc] at hstop
  contradiction

/-- What it is for all checks to hold: the control program is found, the user may do everything, the
baseline is there, and the filter reports that it is enabled. -/
theorem cleared_iff :
    Cleared binary p h
      ↔ ∃ program, h.programs.lookup binary = some program
          ∧ h.user = 0
          ∧ h.holds (Path.ofString p.baseline) = .ok true
          ∧ ∃ output errors, h.report = .ended 0 output errors ∧ saysEnabled output = true := by
  have hall : Cleared binary p h ↔ ∀ c, Check.verdict binary p h c = .ok true := by
    refine forall_congr' (fun c => ?_)
    cases c <;> simp [Check.all]
  have hbaseline : (h.holds (Path.ofString p.baseline)).mapError Failure.system = .ok true
      ↔ h.holds (Path.ofString p.baseline) = .ok true := by
    cases h.holds (Path.ofString p.baseline) with
    | error e =>
        exact ⟨fun hsame => by contradiction, fun hsame => by contradiction⟩
    | ok there =>
        exact ⟨fun hsame => congrArg Except.ok (Except.ok.inj hsame),
          fun hsame => congrArg Except.ok (Except.ok.inj hsame)⟩
  rw [hall]
  constructor
  · intro hholds
    obtain ⟨program, hprogram⟩ : ∃ program, h.programs.lookup binary = some program := by
      simpa [Check.verdict, Option.isSome_iff_exists] using hholds .program
    exact ⟨program, hprogram, by simpa [Check.verdict] using hholds .superuser,
      hbaseline.1 (hholds .baseline), Engine.reported_map_eq_ok_iff.1 (hholds .enabled)⟩
  · rintro ⟨program, hprogram, huser, hthere, hsays⟩ c
    cases c with
    | program =>
        simp [Check.verdict, hprogram]
    | superuser =>
        simp [Check.verdict, huser]
    | baseline =>
        exact hbaseline.2 hthere
    | enabled =>
        exact Engine.reported_map_eq_ok_iff.2 hsays

end Clearance

/-! ## A host on which all checks hold -/

/-- A host that grants everything. -/
def obligingHost : Host where
  files := ⟨[(["etc", "pf.conf"], .file [] none), (["tmp"], .directory none)]⟩
  directory := ["work"]
  environment := [("HOME", "/home/user")]
  homes := []
  resolver := []
  routes := .ended 0 "" ""
  interfaces := .ok []
  programs := [("pfctl", "/sbin/pfctl")]
  report := .ended 0 "Status: Enabled" ""
  load := .ended 0 "" ""
  user := 0
  scratch := ⟨none, none, none⟩

/-- A policy that lets nothing through, with the usual baseline. -/
def strictPolicy : Policy :=
  .of .none [] [] ""

theorem obligingHost_cleared :
    Cleared "pfctl" strictPolicy obligingHost :=
  cleared_iff.2 ⟨"/sbin/pfctl", rfl, rfl, rfl, "Status: Enabled", "", rfl, rfl⟩

end Lock
end Killswitch
