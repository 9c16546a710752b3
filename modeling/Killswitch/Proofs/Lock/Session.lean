import Killswitch.Proofs.Lock.Operation

/-!
# Sessions

What a session leaves to a later step is a machine. A step that puts the lock on or takes it off checks the
preconditions on the host of that machine, whatever is remembered of the control program.

**Results.**
* `reached`, `seenAfter`: the machine after some moves, and what is seen of a step taken there;
* `play_append_step`: what is seen of a session with a step at some place;
* `seenAfter_of_stop`: what is seen of a step that a check stops;
* `loads_iff`, `loadsFile_of_mem`: when a step loads something, and which file it loads;
* `seenAfter_probe`: what a question about the filter shows;
* `switch_loads_iff_checks_hold`: both together, at every place of a session.
-/

namespace Killswitch

open Killswitch.Action

/-- Something has been loaded. -/
def Journal.Loads (j : Journal) : Prop :=
  ∃ arguments text, Call.load arguments text ∈ j.calls

namespace Lock

/-! ## Places in a session -/

/-- The machine after some moves. -/
def reached (binary : String) : Machine → List Move → Machine
  | m, [] => m
  | m, .change c :: rest => reached binary { m with host := c m.host } rest
  | m, .step s :: rest => reached binary ((s.run binary).observe m).2 rest

/-- What is seen of a step that is taken after some moves. -/
def seenAfter (binary : String) (m : Machine) (before : List Move) (s : Step) : Observation Answer :=
  ((s.run binary).observe (reached binary m before)).1

theorem reached_append
    (binary : String) (m : Machine) (before after : List Move) :
    reached binary m (before ++ after) = reached binary (reached binary m before) after := by
  induction before generalizing m with
  | nil =>
      rfl
  | cons move before ih =>
      cases move with
      | step s =>
          exact ih _
      | change c =>
          exact ih _

theorem play_append
    (binary : String) (m : Machine) (before after : List Move) :
    play binary m (before ++ after) =
      play binary m before ++ play binary (reached binary m before) after := by
  induction before generalizing m with
  | nil =>
      rfl
  | cons move before ih =>
      cases move with
      | step s =>
          exact congrArg _ (ih _)
      | change c =>
          exact ih _

/-- What is seen of a session with a step at some place: what comes before, the step, and what comes
after it on the machine that the step has left. -/
theorem play_append_step
    (binary : String) (m : Machine) (before after : List Move) (s : Step) :
    play binary m (before ++ .step s :: after) =
      play binary m before ++ seenAfter binary m before s
        :: play binary (reached binary m (before ++ [.step s])) after := by
  rw [play_append, reached_append]
  rfl

section Seen

variable {binary : String} {m : Machine} {before : List Move} {s : Step}
variable {o : Except Failure Answer} {t : Standing} {calls : List Call}

/-- What is seen of a step whose run is known. -/
theorem seenAfter_of_runs
    (h : Runs (s.run binary) (reached binary m before).standing o t (Journal.ofCalls calls)) :
    (seenAfter binary m before s).outcome = o
      ∧ (seenAfter binary m before s).journal.calls = calls
      ∧ (seenAfter binary m before s).scratchFiles = t.host.scratchFiles
      ∧ (reached binary m (before ++ [.step s])).host = t.host := by
  obtain ⟨houtcome, hdeeds, hfiles, hstanding⟩ := h.observe_eq
  refine ⟨houtcome, ?_, hfiles, ?_⟩
  · rw [← Journal.calls_deeds]
    exact (congrArg Journal.calls hdeeds).trans (Journal.calls_ofCalls calls)
  · rw [reached_append]
    exact congrArg Standing.host hstanding

end Seen

/-! ## Loads -/

section Steps

variable {binary : String} {m : Machine} {before : List Move} {s : Step} {p : Policy}

/-- A step that puts the lock of a policy on or takes it off. -/
def Step.Switches (s : Step) (p : Policy) : Prop :=
  s = .enable p ∨ s = .disable p

/-- A check that does not hold ends a step with its failure. No later check is made, and the host is left
as it was. -/
theorem seenAfter_of_stop
    {earlier later : List Check} {c : Check} {f : Failure}
    (hs : s.Switches p)
    (hall : Check.all = earlier ++ c :: later)
    (hholds : ∀ d ∈ earlier, d.verdict binary p (reached binary m before).host = .ok true)
    (hstop : c.outcome binary p (reached binary m before).host = .error f) :
    (seenAfter binary m before s).outcome = .error f
      ∧ (seenAfter binary m before s).journal.calls
          = (earlier ++ [c]).flatMap (Check.calls binary (reached binary m before).host)
      ∧ (reached binary m (before ++ [.step s])).host = (reached binary m before).host := by
  rcases hs with rfl | rfl
  · have hrun := (enable_runs_of_stop (s := (reached binary m before).standing) hall hholds hstop).map
      (f := Answer.state)
    obtain ⟨houtcome, hcalls, -, hhost⟩ := seenAfter_of_runs (s := .enable p) hrun
    exact ⟨houtcome, hcalls, hhost⟩
  · have hrun := (disable_runs_of_stop (s := (reached binary m before).standing) hall hholds hstop).map
      (f := Answer.state)
    obtain ⟨houtcome, hcalls, -, hhost⟩ := seenAfter_of_runs (s := .disable p) hrun
    exact ⟨houtcome, hcalls, hhost⟩

/-- The file that a step hands to the filter, and the text that the filter is to read in it: the ruleset file
with the rules of the policy, or the baseline. -/
inductive Step.LoadsFile (t : Standing) : Step → String → Option String → Prop where
  | rules (p : Policy) :
      LoadsFile t (.enable p) t.nextPath (Engine.textOf (t.holding (rulesBytes p)).host t.nextPath)
  | baseline (p : Policy) :
      LoadsFile t (.disable p) p.baseline (Engine.textOf t.host p.baseline)

/-- What a step that switches the lock loads: the control program is told the file that the text is from. -/
theorem loadsFile_of_mem
    (binary : String) (m : Machine) (before : List Move)
    {arguments : List String} {text : Option String}
    (hs : s.Switches p)
    (hload : .load arguments text ∈ (seenAfter binary m before s).journal.calls) :
    ∃ program file, (reached binary m before).host.programs.lookup binary = some program
      ∧ arguments = Engine.loadCommand program file
      ∧ s.LoadsFile (reached binary m before).standing file text := by
  rcases hs with rfl | rfl
  · obtain ⟨o, t, calls, hcourse⟩ :=
      exists_enableCourse binary p (reached binary m before).standing
    obtain ⟨-, hcalls, -, -⟩ :=
      seenAfter_of_runs (s := .enable p) (hcourse.runs.map (f := Answer.state))
    obtain ⟨program, hprogram, rfl, rfl⟩ := hcourse.load_eq (hcalls ▸ hload)
    exact ⟨program, _, hprogram, rfl, .rules p⟩
  · obtain ⟨o, t, calls, hrun, hloads⟩ :=
      exists_disable_runs binary p (reached binary m before).standing
    obtain ⟨-, hcalls, -, -⟩ := seenAfter_of_runs (s := .disable p) (hrun.map (f := Answer.state))
    obtain ⟨-, program, hprogram, rfl, rfl⟩ := hloads _ _ (hcalls ▸ hload)
    exact ⟨program, _, hprogram, rfl, .baseline p⟩

/-- What it takes besides the checks: a ruleset file where the lock is put on. -/
def Step.HasFile (s : Step) (p : Policy) (h : Host) : Prop :=
  s = .enable p → h.scratch.create = none ∧ h.scratch.write = none

/-- Something is loaded if and only if all checks hold and, where the lock is put on, a ruleset file can be
made. Where nothing is loaded the step fails. -/
theorem loads_iff
    (binary : String) (m : Machine) (before : List Move)
    (hs : s.Switches p) :
    ((seenAfter binary m before s).journal.Loads
        ↔ Cleared binary p (reached binary m before).host ∧ s.HasFile p (reached binary m before).host)
      ∧ (¬ (seenAfter binary m before s).journal.Loads →
          ∃ f, (seenAfter binary m before s).outcome = .error f) := by
  rcases hs with rfl | rfl
  · obtain ⟨o, t, calls, hcourse⟩ :=
      exists_enableCourse binary p (reached binary m before).standing
    obtain ⟨houtcome, hcalls, -, -⟩ :=
      seenAfter_of_runs (s := .enable p) (hcourse.runs.map (f := Answer.state))
    rw [Journal.Loads, hcalls, houtcome, hcourse.loads_iff]
    refine ⟨and_congr_right' ⟨fun hfile _ => hfile, fun hfile => hfile rfl⟩, fun hnot => ?_⟩
    obtain ⟨f, rfl⟩ := hcourse.fails_of_not_loads (fun hload => hnot (hcourse.loads_iff.1 hload))
    exact ⟨f, rfl⟩
  · rcases cleared_or_stop binary p (reached binary m before).host with
      hcleared | ⟨earlier, c, later, f, hall, hholds, hstop⟩
    · obtain ⟨program, hprogram⟩ := hcleared.lookup
      have hrun := (disable_runs_of_load (s := (reached binary m before).standing)
        hcleared hprogram).map (f := Answer.state)
      obtain ⟨-, hcalls, -, -⟩ := seenAfter_of_runs (s := .disable p) hrun
      have hloads : (seenAfter binary m before (.disable p)).journal.Loads :=
        ⟨_, _, hcalls ▸ load_mem_loading⟩
      exact ⟨⟨fun _ => ⟨hcleared, by simp [Step.HasFile]⟩, fun _ => hloads⟩,
        fun hnot => absurd hloads hnot⟩
    · obtain ⟨houtcome, hcalls, -⟩ := seenAfter_of_stop (m := m) (.inr rfl) hall hholds hstop
      refine ⟨⟨?_, ?_⟩, fun _ => ⟨f, houtcome⟩⟩
      · rintro ⟨_, _, hload⟩
        exact absurd (hcalls ▸ hload) not_load_mem_flatMap
      · rintro ⟨hcleared, -⟩
        exact absurd hcleared (not_cleared_of_stop hall hstop)

/-- A question about the filter loads nothing. It shows that the lock is not known if and only if the
control program is found and the filter reports that it is enabled. -/
theorem seenAfter_probe :
    ((seenAfter binary m before .probe).outcome = .ok (.state .unknown)
        ↔ (∃ program, (reached binary m before).host.programs.lookup binary = some program)
          ∧ ∃ output errors, (reached binary m before).host.report = .ended 0 output errors
              ∧ saysEnabled output = true)
      ∧ ¬ (seenAfter binary m before .probe).journal.Loads := by
  cases hprogram : (reached binary m before).host.programs.lookup binary with
  | none =>
      have hrun := (probe_runs_of_none (s := (reached binary m before).standing) hprogram).map
        (f := Answer.state)
      obtain ⟨houtcome, hcalls, -, -⟩ := seenAfter_of_runs (s := .probe) hrun
      refine ⟨?_, ?_⟩
      · rw [houtcome]
        simp [Except.map]
      · rintro ⟨_, _, hload⟩
        simp [hcalls] at hload
  | some program =>
      have hrun := (probe_runs_of_some (s := (reached binary m before).standing) hprogram).map
        (f := Answer.state)
      obtain ⟨houtcome, hcalls, -, -⟩ := seenAfter_of_runs (s := .probe) hrun
      refine ⟨?_, ?_⟩
      · have hmap : ((Engine.reported program (reached binary m before).host).map shown).map
              Answer.state
            = (Engine.reported program (reached binary m before).host).map
                (fun report => Answer.state (shown report)) := by
          cases Engine.reported program (reached binary m before).host <;> rfl
        rw [houtcome.trans hmap, Engine.reported_map_eq_ok_iff]
        simp [shown_eq_unknown_iff]
      · rintro ⟨_, _, hload⟩
        rw [hcalls] at hload
        rcases List.mem_cons.1 hload with hload | hload
        · contradiction
        · exact not_load_mem_calls hload

end Steps

/-- A step of a session that switches the lock loads something if and only if the control program is
found, the user may do everything, the baseline is there, the filter reports that it is enabled, and,
where the lock is put on, a ruleset file can be made. Else it fails: with the complaint of the first check
that does not hold, or with that check's own failure. No later check requests anything then, and the host
is left as it was. What is loaded is the ruleset file or the baseline, by the control program that the check
has found, and the text is what that file holds. A question about the filter at the same place loads
nothing, and shows that the lock is not known if and only if the control program is found and the filter
reports that it is enabled. -/
theorem switch_loads_iff_checks_hold
    (binary : String) (m : Machine) (before after : List Move)
    {s : Step} {p : Policy}
    (hs : s = .enable p ∨ s = .disable p) :
    let h := (reached binary m before).host
    let seen := seenAfter binary m before s
    let asked := seenAfter binary m before .probe
    let found := ∃ program, h.programs.lookup binary = some program
    let enabled := ∃ output errors, h.report = .ended 0 output errors ∧ saysEnabled output = true
    play binary m (before ++ .step s :: after)
        = play binary m before ++ seen :: play binary (reached binary m (before ++ [.step s])) after
      ∧ (seen.journal.Loads
          ↔ found ∧ h.user = 0 ∧ h.holds (Path.ofString p.baseline) = .ok true ∧ enabled
            ∧ (s = .enable p → h.scratch.create = none ∧ h.scratch.write = none))
      ∧ (¬ seen.journal.Loads → ∃ f, seen.outcome = .error f)
      ∧ (∀ earlier c later, Check.all = earlier ++ c :: later →
          (∀ d ∈ earlier, d.verdict binary p h = .ok true) →
          (c.verdict binary p h = .ok false →
              seen.outcome = .error (.diagnostic (.of .precondition (c.complaint binary p))))
            ∧ (∀ f, c.verdict binary p h = .error f → seen.outcome = .error f)
            ∧ (c.verdict binary p h ≠ .ok true →
                seen.journal.calls = (earlier ++ [c]).flatMap (Check.calls binary h)
                  ∧ (reached binary m (before ++ [.step s])).host = h))
      ∧ (∀ arguments text, .load arguments text ∈ seen.journal.calls →
          ∃ program file, h.programs.lookup binary = some program
            ∧ arguments = Engine.loadCommand program file
            ∧ s.LoadsFile (reached binary m before).standing file text)
      ∧ (asked.outcome = .ok (.state .unknown) ↔ found ∧ enabled)
      ∧ ¬ asked.journal.Loads := by
  intro h seen asked found enabled
  obtain ⟨hloads, hfails⟩ := loads_iff binary m before hs
  have hstopped : ∀ earlier c later f, Check.all = earlier ++ c :: later →
      (∀ d ∈ earlier, d.verdict binary p h = .ok true) → c.outcome binary p h = .error f →
      seen.outcome = .error f
        ∧ seen.journal.calls = (earlier ++ [c]).flatMap (Check.calls binary h)
        ∧ (reached binary m (before ++ [.step s])).host = h :=
    fun _ _ _ _ hall hholds hstop => seenAfter_of_stop hs hall hholds hstop
  refine ⟨play_append_step binary m before after s, ?_, hfails, ?_,
    fun _ _ hload => loadsFile_of_mem binary m before hs hload, seenAfter_probe⟩
  · refine hloads.trans ⟨?_, ?_⟩
    · rintro ⟨hcleared, hfile⟩
      obtain ⟨program, hprogram, huser, hthere, henabled⟩ := cleared_iff.1 hcleared
      exact ⟨⟨program, hprogram⟩, huser, hthere, henabled, hfile⟩
    · rintro ⟨⟨program, hprogram⟩, huser, hthere, henabled, hfile⟩
      exact ⟨cleared_iff.2 ⟨program, hprogram, huser, hthere, henabled⟩, hfile⟩
  · intro earlier c later hall hholds
    refine ⟨?_, ?_, ?_⟩
    · intro hno
      exact (hstopped earlier c later _ hall hholds (Check.outcome_of_not hno)).1
    · intro f hfault
      exact (hstopped earlier c later f hall hholds (Check.outcome_of_error hfault)).1
    · intro hne
      cases hend : c.outcome binary p h with
      | ok _ =>
          exact absurd (Check.outcome_eq_ok_iff.1 hend) hne
      | error f =>
          exact (hstopped earlier c later f hall hholds hend).2

theorem obligingHost_enable_loads :
    (seenAfter "pfctl" (.ofHost obligingHost) [] (.enable strictPolicy)).journal.Loads :=
  (switch_loads_iff_checks_hold "pfctl" (.ofHost obligingHost) [] [] (.inl rfl)).2.1.2
    ⟨⟨"/sbin/pfctl", rfl⟩, rfl, rfl, ⟨"Status: Enabled", "", rfl, rfl⟩, fun _ => ⟨rfl, rfl⟩⟩

end Lock
end Killswitch
