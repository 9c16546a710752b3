import Killswitch.Proofs.CommandLine.Baseline
import Killswitch.Proofs.CommandLine.Verbatim

/-!
# Which failures are told to the user

A command tells the user what went wrong if its failure is a diagnostic, and passes every other failure on.
The checks, the engine and the policy file make diagnostics of most that can go wrong, but not of all of it:
the settings and the path of the baseline are looked up without a guard, and so is some of what a policy
document may hold. A text that is shown may also hold marks of its own that do not fit.

**Results.**
* `settled`, `answer_settle`: what a command makes of the failure of its action;
* `disable_error`, `probe_error`: the failures of taking the lock off, and of asking about the filter;
* `disable_ends`, `status_ends`: how the actions of both commands end, and what they show at last;
* `Escapes`, `lineOutcome_eq_error_iff`: the failures that are not told;
* `Tells`, `Tells.eq_of_verbatim`: what is told of a failure, and in which words;
* `failures_told_unless_escaping`: all others are told, and the exit code is one.
-/

namespace Killswitch

open Killswitch.Action

namespace CommandLine

/-! ## What a command makes of a failure -/

theorem answer_display (markup : String) (h : Host) :
    answer (Screen.display markup) h = (Screen.textOf markup).map (fun _ => ()) := by
  rw [answer, Screen.display, bind_run, ofOutcome_run]
  cases Screen.textOf markup <;> rfl

theorem entries_display
    {markup shown : String} (hshown : Screen.textOf markup = .ok shown) (h : Host) :
    entries (Screen.display markup) h = [.notice (shown ++ "\n")] := by
  rw [entries, Screen.display, bind_run, ofOutcome_run, hshown]
  rfl

def reportOutput (d : Diagnostic) : Action Unit :=
  match d.category with
  | .engine output _ => do
      let output := Text.trimEnd output.toList
      if !output.isEmpty then Screen.display (Markup.escape (String.ofList output))
  | _ => pure ()

theorem report_eq (d : Diagnostic) :
    report d = Screen.display (Screen.diagnosticMarkup d) >>= fun _ => reportOutput d := by
  rfl

theorem reportOutput_consults (d : Diagnostic) :
    Consults Event.Quiet (reportOutput d) := by
  unfold reportOutput
  split
  · dsimp only
    split
    · exact display_consults _
    · exact .pure _
  · exact .pure _

/-- Nothing that the engine has written keeps a diagnostic from being shown. -/
theorem answer_reportOutput (d : Diagnostic) (h : Host) :
    answer (reportOutput d) h = .ok () := by
  unfold reportOutput
  split
  · dsimp only
    split
    · obtain ⟨shown, hshown⟩ := Screen.textOf_escape _
      rw [answer_display, hshown]
      rfl
    · rfl
  · rfl

theorem answer_report (d : Diagnostic) (h : Host) :
    answer (report d) h = (Screen.textOf (Screen.diagnosticMarkup d)).map (fun _ => ()) := by
  rw [report_eq, answer_bind (display_consults _) (fun _ => reportOutput_consults d), answer_display]
  cases Screen.textOf (Screen.diagnosticMarkup d) with
  | error e =>
      rfl
  | ok shown =>
      exact answer_reportOutput d h

/-- How a command ends whose action has ended: a diagnostic leaves the code of a failure once it has been
shown, and other failures are passed on. -/
def settled : Except Failure Nat → Except Failure Nat
  | .ok code => .ok code
  | .error (.diagnostic d) => (Screen.textOf (Screen.diagnosticMarkup d)).map (fun _ => failureCode)
  | .error f => .error f

theorem settled_diagnostic (d : Diagnostic) :
    settled (.error (.diagnostic d))
      = (Screen.textOf (Screen.diagnosticMarkup d)).map (fun _ => failureCode) := by
  rfl

theorem answer_settle (o : Except Failure Nat) (h : Host) :
    answer (settle o) h = settled o := by
  cases o with
  | ok code =>
      rfl
  | error f =>
      cases f with
      | diagnostic d =>
          change answer (report d >>= fun _ => pure failureCode) h = _
          rw [settled_diagnostic, answer_bind (report_consults d) (fun _ => .pure _), answer_report]
          cases Screen.textOf (Screen.diagnosticMarkup d) <;> rfl
      | _ =>
          rfl

/-- A failure that is told to the user: a diagnostic that can be shown. -/
def Tellable (f : Failure) : Prop :=
  ∃ d shown, f = .diagnostic d ∧ Screen.textOf (Screen.diagnosticMarkup d) = .ok shown

theorem notice_mem_entries_settle
    {d : Diagnostic} {shown : String}
    (hshown : Screen.textOf (Screen.diagnosticMarkup d) = .ok shown) (h : Host) :
    .notice (shown ++ "\n") ∈ entries (settle (.error (.diagnostic d))) h := by
  have hfirst : .notice (shown ++ "\n") ∈ entries (report d) h := by
    rw [report_eq, entries_bind (display_consults _) (fun _ => reportOutput_consults d),
      entries_display hshown]
    exact List.mem_append_left _ List.mem_cons_self
  change _ ∈ entries (report d >>= fun _ => pure failureCode) h
  rw [entries_bind (report_consults d) (fun _ => .pure _)]
  exact List.mem_append_left _ hfirst

/-! ## The failures of the lock -/

/-- A run of a program ends by itself or at its time limit, or the operating system refuses it. -/
def IsOrdinary (r : Run) : Prop :=
  ∀ f, r = .fault f → ∃ e, f = .system e

theorem tellable_of
    {category : Category} (text : String)
    (hstep : ∀ c ∈ (Markup.escape category.usualStep).toList, c ≠ '[' ∧ c ≠ '\\') :
    Tellable (.diagnostic (.of category text)) := by
  obtain ⟨shown, hshown⟩ := Screen.textOf_diagnostic (d := .of category text) hstep
  exact ⟨_, shown, rfl, hshown⟩

theorem tellable_precondition (text : String) :
    Tellable (.diagnostic (.of .precondition text)) :=
  tellable_of text (Markup.ordinary_of_all (by decide))

theorem tellable_engine (output : String) (code : Option Int) (text : String) :
    Tellable (.diagnostic (.of (.engine output code) text)) :=
  tellable_of text (Markup.ordinary_of_all
    (show (Markup.escape "engine").toList.all (fun c => c != '[' && c != '\\') = true by decide))

/-- The engine makes a diagnostic of every run that has no output. -/
theorem outputOf_error
    {program limit : String} {command : List String} {run : Run} {f : Failure}
    (hrun : IsOrdinary run)
    (hfail : Engine.outputOf program command limit run = .error f) :
    Tellable f := by
  cases run with
  | ended code output errors =>
      unfold Engine.outputOf at hfail
      dsimp only at hfail
      split at hfail
      · contradiction
      · obtain rfl := Except.error.inj hfail
        exact tellable_engine _ _ _
  | timedOut captured =>
      obtain rfl := Except.error.inj hfail
      exact tellable_engine _ _ _
  | fault fault =>
      obtain ⟨e, rfl⟩ := hrun fault rfl
      obtain rfl := Except.error.inj hfail
      exact tellable_engine _ _ _

section Lock

variable {binary : String} {p : Policy} {h : Host} {f : Failure}

/-- A check makes a diagnostic of what does not hold. Only the failure of the baseline to be looked up is
passed on. -/
theorem check_error
    {c : Lock.Check}
    (hreport : IsOrdinary h.report)
    (hfail : c.outcome binary p h = .error f) :
    Tellable f ∨ c = .baseline ∧ ∃ e, f = .system e ∧ h.holds (Path.ofString p.baseline) = .error e := by
  unfold Lock.Check.outcome at hfail
  split at hfail
  · contradiction
  · obtain rfl := Except.error.inj hfail
    exact .inl (tellable_precondition _)
  · rename_i g hverdict
    obtain rfl := Except.error.inj hfail
    -- the first two checks always have a verdict, and the engine makes a diagnostic of its own
    cases c with
    | program =>
        contradiction
    | superuser =>
        contradiction
    | baseline =>
        cases hholds : h.holds (Path.ofString p.baseline) with
        | error e =>
            rw [Lock.Check.verdict, hholds] at hverdict
            exact .inr ⟨rfl, e, (Except.error.inj hverdict).symm, rfl⟩
        | ok there =>
            rw [Lock.Check.verdict, hholds] at hverdict
            contradiction
    | enabled =>
        cases hreported : Engine.reported ((h.programs.lookup binary).getD "") h with
        | error e =>
            rw [Lock.Check.verdict, hreported] at hverdict
            obtain rfl := Except.error.inj hverdict
            exact .inl (outputOf_error hreport hreported)
        | ok report =>
            rw [Lock.Check.verdict, hreported] at hverdict
            contradiction

/-- The checks in front of the baseline check. -/
theorem earlier_eq
    {earlier later : List Lock.Check}
    (hall : Lock.Check.all = earlier ++ .baseline :: later) :
    earlier = [.program, .superuser] := by
  rcases earlier with _ | ⟨a, _ | ⟨b, _ | ⟨c, earlier⟩⟩⟩
  · simp [Lock.Check.all] at hall
  · simp [Lock.Check.all] at hall
  · simp only [Lock.Check.all, List.cons_append, List.nil_append, List.cons.injEq] at hall
    rw [← hall.1, ← hall.2.1]
  · simp only [Lock.Check.all, List.cons_append, List.cons.injEq] at hall
    have hmem : Lock.Check.baseline ∈ [Lock.Check.enabled] := by
      simp [hall.2.2.2]
    simp at hmem

theorem answer_disable_of_stop
    (earlier : List Lock.Check) (c : Lock.Check) {later : List Lock.Check}
    (hall : Lock.Check.all = earlier ++ c :: later)
    (hholds : ∀ d ∈ earlier, d.verdict binary p h = .ok true)
    (hstop : c.outcome binary p h = .error f) :
    answer (Lock.disable binary p) h = .error f :=
  (Lock.disable_runs_of_stop (s := ⟨h, 0, none⟩) hall hholds hstop).answer_eq

theorem answer_disable_of_cleared
    {program : String}
    (hcleared : Lock.Cleared binary p h)
    (hprogram : h.programs.lookup binary = some program) :
    answer (Lock.disable binary p) h
      = (Engine.loaded program p.baseline h).map (fun _ => .restored) :=
  (Lock.disable_runs_of_load (s := ⟨h, 0, none⟩) hcleared hprogram).answer_eq

/-- Taking the lock off ends in the same way whatever has been done before. -/
theorem disable_runs_answer
    (binary : String) (p : Policy) (s : Standing) :
    ∃ t d, Runs (Lock.disable binary p) s (answer (Lock.disable binary p) s.host) t d := by
  rcases Lock.cleared_or_stop binary p s.host with
    hcleared | ⟨earlier, c, later, f, hall, hholds, hstop⟩
  · obtain ⟨program, hprogram⟩ := hcleared.lookup
    rw [answer_disable_of_cleared hcleared hprogram]
    exact ⟨_, _, Lock.disable_runs_of_load hcleared hprogram⟩
  · rw [answer_disable_of_stop _ _ hall hholds hstop]
    exact ⟨_, _, Lock.disable_runs_of_stop hall hholds hstop⟩

/-- Taking the lock off fails with a diagnostic, or since the baseline cannot be looked up. -/
theorem disable_error
    (hreport : IsOrdinary h.report)
    (hload : IsOrdinary h.load)
    (hfail : answer (Lock.disable binary p) h = .error f) :
    Tellable f ∨ Lock.Check.program.verdict binary p h = .ok true
      ∧ Lock.Check.superuser.verdict binary p h = .ok true
      ∧ ∃ e, f = .system e ∧ h.holds (Path.ofString p.baseline) = .error e := by
  rcases Lock.cleared_or_stop binary p h with
    hcleared | ⟨earlier, c, later, g, hall, hholds, hstop⟩
  · obtain ⟨program, hprogram⟩ := hcleared.lookup
    rw [answer_disable_of_cleared hcleared hprogram] at hfail
    cases hloaded : Engine.loaded program p.baseline h with
    | error e =>
        rw [hloaded] at hfail
        obtain rfl := Except.error.inj hfail
        exact .inl (outputOf_error hload hloaded)
    | ok output =>
        rw [hloaded] at hfail
        contradiction
  · rw [answer_disable_of_stop _ _ hall hholds hstop] at hfail
    obtain rfl := Except.error.inj hfail
    refine (check_error hreport hstop).imp_right ?_
    rintro ⟨rfl, e, he, hunknown⟩
    obtain rfl := earlier_eq hall
    exact ⟨hholds _ (by simp), hholds _ (by simp), e, he, hunknown⟩

/-- Where the baseline cannot be looked up, taking the lock off fails with that. -/
theorem answer_disable_of_unknown
    {e : SystemError}
    (hprogram : Lock.Check.program.verdict binary p h = .ok true)
    (huser : Lock.Check.superuser.verdict binary p h = .ok true)
    (hunknown : h.holds (Path.ofString p.baseline) = .error e) :
    answer (Lock.disable binary p) h = .error (.system e) := by
  refine answer_disable_of_stop [.program, .superuser] .baseline rfl ?_ ?_
  · simp [hprogram, huser]
  · exact Lock.Check.outcome_of_error (by rw [Lock.Check.verdict, hunknown]; rfl)

/-- A question about the filter ends in the same way whatever has been done before. -/
theorem probe_runs_answer
    (binary : String) (s : Standing) :
    ∃ t d, Runs (Lock.probe binary) s (answer (Lock.probe binary) s.host) t d := by
  cases hprogram : s.host.programs.lookup binary with
  | none =>
      rw [(Lock.probe_runs_of_none (s := ⟨s.host, 0, none⟩) hprogram).answer_eq]
      exact ⟨_, _, Lock.probe_runs_of_none hprogram⟩
  | some program =>
      rw [(Lock.probe_runs_of_some (s := ⟨s.host, 0, none⟩) hprogram).answer_eq]
      exact ⟨_, _, Lock.probe_runs_of_some hprogram⟩

/-- A question about the filter fails with a diagnostic. -/
theorem probe_error
    (hreport : IsOrdinary h.report)
    (hfail : answer (Lock.probe binary) h = .error f) :
    Tellable f := by
  cases hprogram : h.programs.lookup binary with
  | none =>
      rw [(Lock.probe_runs_of_none (s := ⟨h, 0, none⟩) hprogram).answer_eq] at hfail
      contradiction
  | some program =>
      rw [(Lock.probe_runs_of_some (s := ⟨h, 0, none⟩) hprogram).answer_eq] at hfail
      cases hreported : Engine.reported program h with
      | error e =>
          dsimp only at hfail
          rw [hreported] at hfail
          obtain rfl := Except.error.inj hfail
          exact outputOf_error hreport hreported
      | ok report =>
          dsimp only at hfail
          rw [hreported] at hfail
          contradiction

end Lock

/-! ## The actions of both commands -/

/-- What is shown of a baseline that has been restored. -/
def restoredMarkup (p : Policy) : String :=
  "Lock [yellow]disabled[/yellow]: restored " ++ p.baseline

/-- The rows of the table that a question about the filter is answered with. -/
def stateRows (binary : String) (state : Lock.State) : List (String × String) := [
  ("FIREWALL", if state = .disabledOrAbsent then "[red]DISABLED[/red]" else "[green]ENABLED[/green]"),
  ("ENGINE", binary),
  ("LOCK", state.name)]

/-- The exit code for what a question about the filter has shown. -/
def stateCode (state : Lock.State) : Nat :=
  if state = .disabledOrAbsent then failureCode else 0

/-- How the action of a command ends that takes the lock off. -/
def disabling (c : Context) (f : Flags) (h : Host) : Except Failure Nat := do
  let p ← answer (disablingPolicyOf c f) h
  let _ ← answer (Lock.disable c.settings.binary p) h
  (Screen.textOf (restoredMarkup p)).map (fun _ => 0)

/-- How the action of a command ends that asks about the filter. -/
def asking (c : Context) (h : Host) : Except Failure Nat := do
  let state ← answer (Lock.probe c.settings.binary) h
  (Screen.tableText (stateRows c.settings.binary state)).map (fun _ => stateCode state)

section Actions

variable {c : Context} {f : Flags} {s : Standing}

theorem answer_tellRestored (p : Policy) (h : Host) :
    answer (tellRestored p) h = (Screen.textOf (restoredMarkup p)).map (fun _ => 0) := by
  have hquiet : ∀ u : Unit, Consults NoRequest (Screen.printResult doneMark >>= fun _ => pure 0) :=
    fun _ => (Consults.enter (by simp [NoRequest])).bind (fun _ => .pure _)
  change answer (Screen.display (restoredMarkup p) >>= fun _ =>
    Screen.printResult doneMark >>= fun _ => pure 0) h = _
  rw [answer_bind ((display_consults _).mono (fun _ => noRequest_of_quiet)) hquiet, answer_display]
  cases Screen.textOf (restoredMarkup p) <;> rfl

theorem disable_ends (c : Context) (f : Flags) (s : Standing) :
    ∃ last, Ends (disable c f) s (disabling c f s.host) last := by
  have hmade := (disablingPolicyOf_consults c f).runs s
  rw [disable_eq, disabling]
  cases hp : answer (disablingPolicyOf c f) s.host with
  | error e =>
      rw [hp] at hmade
      exact ⟨[], hmade.bind_error.ends⟩
  | ok p =>
      rw [hp] at hmade
      obtain ⟨t, d, hrun⟩ := disable_runs_answer c.settings.binary p s
      rw [ok_bind]
      cases hend : answer (Lock.disable c.settings.binary p) s.host with
      | error e =>
          rw [hend] at hrun
          exact ⟨[], (hmade.bind hrun.bind_error).ends⟩
      | ok state =>
          rw [hend] at hrun
          have htold := (tellRestored_consults p).runs t
          rw [answer_tellRestored] at htold
          rw [ok_bind]
          exact ⟨[], (hmade.bind (hrun.bind htold)).ends⟩

/-- Shows the table for what a question about the filter has shown. -/
def tellState (binary : String) (state : Lock.State) : Action Nat := do
  Screen.table (stateRows binary state)
  return stateCode state

theorem status_eq (c : Context) :
    status c = Lock.probe c.settings.binary >>= tellState c.settings.binary := by
  rfl

theorem tellState_consults (binary : String) (state : Lock.State) :
    Consults Event.Quiet (tellState binary state) :=
  (Consults.bind (.ofOutcome _) (fun _ => notice_consults _)).bind (fun _ => .pure _)

theorem answer_tellState (binary : String) (state : Lock.State) (h : Host) :
    answer (tellState binary state) h
      = (Screen.tableText (stateRows binary state)).map (fun _ => stateCode state) := by
  rw [answer, tellState, Screen.table, bind_run, bind_run, ofOutcome_run]
  cases Screen.tableText (stateRows binary state) <;> rfl

theorem entries_tellState
    {binary table : String} {state : Lock.State}
    (htable : Screen.tableText (stateRows binary state) = .ok table) (h : Host) :
    entries (tellState binary state) h = [.notice table] := by
  rw [entries, tellState, Screen.table, bind_run, bind_run, ofOutcome_run, htable]
  rfl

/-- A question about the filter ends with its table. -/
theorem status_ends (c : Context) (s : Standing) :
    ∃ last, Ends (status c) s (asking c s.host) last
      ∧ ∀ state table, answer (Lock.probe c.settings.binary) s.host = .ok state →
        Screen.tableText (stateRows c.settings.binary state) = .ok table → .notice table ∈ last := by
  obtain ⟨t, d, hrun⟩ := probe_runs_answer c.settings.binary s
  rw [status_eq, asking]
  cases hend : answer (Lock.probe c.settings.binary) s.host with
  | error e =>
      rw [hend] at hrun
      exact ⟨[], hrun.bind_error.ends, fun state table hstate => by contradiction⟩
  | ok state =>
      rw [hend] at hrun
      obtain ⟨h, hends⟩ := hrun.ends.bind_consults (tellState_consults c.settings.binary state)
      rw [answer_tellState] at hends
      refine ⟨_, hends, fun state' table hstate htable => ?_⟩
      obtain rfl := Except.ok.inj hstate
      rw [entries_tellState htable]
      exact List.mem_cons_self

/-- What a command makes of the end of its action. A diagnostic that can be shown is shown at last. -/
theorem Command.run_ends
    {command : Command} {o : Except Failure Nat} {last : Journal}
    (hbody : Ends (command.body c f) s o last) :
    ∃ more, Ends (command.run c f) s (settled o) (last ++ more)
      ∧ ∀ d shown, o = .error (.diagnostic d) → Screen.textOf (Screen.diagnosticMarkup d) = .ok shown →
        .notice (shown ++ "\n") ∈ more := by
  obtain ⟨h, hends⟩ := hbody.attempt.bind_consults (settle_consults o)
  rw [answer_settle, ← Command.run_eq] at hends
  refine ⟨_, hends, ?_⟩
  rintro d shown rfl hshown
  exact notice_mem_entries_settle hshown h

end Actions

/-! ## Failures that are not told -/

/-- The failures of a run that are passed on: there are no settings; what is wrong with the policy document
is not taken for a failure of the policy file, or the diagnostic of it cannot be shown; the baseline cannot be
looked up; or the path of the baseline that has been restored, or the name of the control program, cannot be
shown. Only the first and the last one concern a question about the filter. -/
inductive Escapes (command : Command) (policyFile : Option String) (flags : Flags) (h : Host) :
    Failure → Prop where
  | settings {e : Failure}
      (hsettings : Settings.ofHost h = .error e) :
      Escapes command policyFile flags h e
  | document {settings : Settings} {e : Failure}
      (hcommand : command = .disable)
      (hsettings : Settings.ofHost h = .ok settings)
      (hdocument : documentOf ⟨settings, policyFile⟩ h = .error e)
      (hfile : ∀ d, e ≠ .diagnostic d) :
      Escapes command policyFile flags h e
  | documentShown {settings : Settings} {d : Diagnostic} {e : Failure}
      (hcommand : command = .disable)
      (hsettings : Settings.ofHost h = .ok settings)
      (hdocument : documentOf ⟨settings, policyFile⟩ h = .error (.diagnostic d))
      (hshown : Screen.textOf (Screen.diagnosticMarkup d) = .error e) :
      Escapes command policyFile flags h e
  | baseline {p : Policy} {e : SystemError}
      (hcommand : command = .disable)
      (hreached : ReachesCheck (disablingPolicyOf · flags) policyFile h p)
      (hunknown : h.holds (Path.ofString p.baseline) = .error e) :
      Escapes command policyFile flags h (.system e)
  | baselineShown {settings : Settings} {p : Policy} {state : Lock.State} {e : Failure}
      (hcommand : command = .disable)
      (hsettings : Settings.ofHost h = .ok settings)
      (hp : answer (disablingPolicyOf ⟨settings, policyFile⟩ flags) h = .ok p)
      (hdisabled : answer (Lock.disable settings.binary p) h = .ok state)
      (hshown : Screen.textOf (restoredMarkup p) = .error e) :
      Escapes command policyFile flags h e
  | stateShown {settings : Settings} {state : Lock.State} {e : Failure}
      (hcommand : command = .status)
      (hsettings : Settings.ofHost h = .ok settings)
      (hstate : answer (Lock.probe settings.binary) h = .ok state)
      (hshown : Screen.tableText (stateRows settings.binary state) = .error e) :
      Escapes command policyFile flags h e

section Outcome

variable {command : Command} {policyFile : Option String} {flags : Flags} {h : Host} {e : Failure}

theorem answer_disable (c : Context) (f : Flags) (h : Host) :
    answer (disable c f) h = disabling c f h := by
  obtain ⟨last, hends⟩ := disable_ends c f ⟨h, 0, none⟩
  exact hends.answer_eq

theorem answer_status (c : Context) (h : Host) :
    answer (status c) h = asking c h := by
  obtain ⟨last, hends, -⟩ := status_ends c ⟨h, 0, none⟩
  exact hends.answer_eq

/-- A failure that can be told is not passed on. -/
theorem settled_tellable
    (hf : Tellable e) :
    settled (.error e) = .ok failureCode := by
  obtain ⟨d, shown, rfl, hshown⟩ := hf
  rw [settled_diagnostic, hshown]
  rfl

theorem settled_undiagnosed
    (hf : ∀ d, e ≠ .diagnostic d) :
    settled (.error e) = .error e := by
  cases e with
  | diagnostic d =>
      exact absurd rfl (hf d)
  | _ =>
      rfl

/-- A failure is passed on if it is no diagnostic; what is passed on in the place of a diagnostic is why that
cannot be shown. -/
theorem of_settled_error
    {g : Failure}
    (hfail : settled (.error g) = .error e) :
    (g = e ∧ ∀ d, e ≠ .diagnostic d)
      ∨ ∃ d, g = .diagnostic d ∧ Screen.textOf (Screen.diagnosticMarkup d) = .error e := by
  by_cases hg : ∃ d, g = .diagnostic d
  · obtain ⟨d, rfl⟩ := hg
    refine .inr ⟨d, rfl, ?_⟩
    rw [settled_diagnostic] at hfail
    cases hshown : Screen.textOf (Screen.diagnosticMarkup d) with
    | error g =>
        rw [hshown] at hfail
        exact congrArg Except.error (Except.error.inj hfail)
    | ok shown =>
        rw [hshown] at hfail
        contradiction
  · have hnot : ∀ d, g ≠ .diagnostic d := fun d hd => hg ⟨d, hd⟩
    obtain rfl := Except.error.inj ((settled_undiagnosed hnot).symm.trans hfail)
    exact .inl ⟨rfl, hnot⟩

/-- Why a text cannot be shown is passed on. -/
theorem settled_map_eq_error_iff
    {o : Except Failure String} {code : Nat}
    (ho : Undiagnosed o) :
    settled (o.map (fun _ => code)) = .error e ↔ o = .error e := by
  cases o with
  | error g =>
      have hg : settled (.error g) = .error g := settled_undiagnosed (fun d hd => ho d (hd ▸ rfl))
      rw [show (Except.error g : Except Failure String).map (fun _ => code) = .error g from rfl, hg]
      simp
  | ok shown =>
      simp [Except.map, settled]

/-- The failure of a command that takes the lock off is one of those that are not told. -/
theorem escapes_of_disable
    {settings : Settings}
    (hreport : IsOrdinary h.report)
    (hload : IsOrdinary h.load)
    (hsettings : Settings.ofHost h = .ok settings)
    (hfail : settled (answer (disable ⟨settings, policyFile⟩ flags) h) = .error e) :
    Escapes .disable policyFile flags h e := by
  rw [answer_disable, disabling] at hfail
  cases hp : answer (disablingPolicyOf ⟨settings, policyFile⟩ flags) h with
  | error g =>
      rw [hp, error_bind] at hfail
      have hdocument := answer_disablingPolicyOf_eq_error_iff.1 hp
      rcases of_settled_error hfail with ⟨rfl, hnot⟩ | ⟨d, rfl, hshown⟩
      · exact .document rfl hsettings hdocument hnot
      · exact .documentShown rfl hsettings hdocument hshown
  | ok p =>
      rw [hp, ok_bind] at hfail
      cases hend : answer (Lock.disable settings.binary p) h with
      | error g =>
          rw [hend, error_bind] at hfail
          rcases disable_error hreport hload hend with htold | ⟨hprogram, huser, e', rfl, hunknown⟩
          · rw [settled_tellable htold] at hfail
            contradiction
          · obtain rfl := Except.error.inj hfail
            have hreached := (answer_approach_eq_ok_iff
              (disablingPolicyOf_consults ⟨settings, policyFile⟩ flags)).2 ⟨hp, hprogram, huser⟩
            exact .baseline rfl ⟨settings, hsettings, hreached⟩ hunknown
      | ok state =>
          rw [hend, ok_bind, settled_map_eq_error_iff (Screen.textOf_undiagnosed _)] at hfail
          exact .baselineShown rfl hsettings hp hend hfail

/-- So is the failure of a command that asks about the filter. -/
theorem escapes_of_status
    {settings : Settings}
    (hreport : IsOrdinary h.report)
    (hsettings : Settings.ofHost h = .ok settings)
    (hfail : settled (answer (status ⟨settings, policyFile⟩) h) = .error e) :
    Escapes .status policyFile flags h e := by
  rw [answer_status, asking] at hfail
  cases hstate : answer (Lock.probe settings.binary) h with
  | error g =>
      rw [hstate, error_bind, settled_tellable (probe_error hreport hstate)] at hfail
      contradiction
  | ok state =>
      rw [hstate, ok_bind, settled_map_eq_error_iff (Screen.tableText_undiagnosed _)] at hfail
      exact .stateShown rfl hsettings hstate hfail

/-- How a command line ends: as its action does, once there are settings. -/
def lineOutcome (command : Command) (policyFile : Option String) (flags : Flags) (h : Host) :
    Except Failure Nat := do
  let settings ← Settings.ofHost h
  settled (answer (command.body ⟨settings, policyFile⟩ flags) h)

theorem lineOutcome_of_ok
    {settings : Settings}
    (hsettings : Settings.ofHost h = .ok settings) :
    lineOutcome command policyFile flags h
      = settled (answer (command.body ⟨settings, policyFile⟩ flags) h) := by
  rw [lineOutcome, hsettings, ok_bind]

/-- Each of the failures that are not told is one. -/
theorem lineOutcome_of_escapes
    (hescapes : Escapes command policyFile flags h e) :
    lineOutcome command policyFile flags h = .error e := by
  -- each of them ends the run at its own place, where all that stands in front of it has succeeded
  cases hescapes with
  | settings hsettings =>
      rw [lineOutcome, hsettings, error_bind]
  | document hcommand hsettings hdocument hfile =>
      subst hcommand
      rw [lineOutcome_of_ok hsettings, Command.body, answer_disable, disabling,
        answer_disablingPolicyOf_eq_error_iff.2 hdocument, error_bind, settled_undiagnosed hfile]
  | documentShown hcommand hsettings hdocument hshown =>
      subst hcommand
      rw [lineOutcome_of_ok hsettings, Command.body, answer_disable, disabling,
        answer_disablingPolicyOf_eq_error_iff.2 hdocument, error_bind, settled_diagnostic, hshown]
      rfl
  | baseline hcommand hreached hunknown =>
      subst hcommand
      obtain ⟨settings, hsettings, hreached⟩ := hreached
      obtain ⟨hp, hprogram, huser⟩ :=
        (answer_approach_eq_ok_iff (disablingPolicyOf_consults _ _)).1 hreached
      rw [lineOutcome_of_ok hsettings, Command.body, answer_disable, disabling, hp, ok_bind,
        answer_disable_of_unknown hprogram huser hunknown, error_bind]
      rfl
  | baselineShown hcommand hsettings hp hdisabled hshown =>
      subst hcommand
      rw [lineOutcome_of_ok hsettings, Command.body, answer_disable, disabling, hp, ok_bind, hdisabled,
        ok_bind, settled_map_eq_error_iff (Screen.textOf_undiagnosed _)]
      exact hshown
  | stateShown hcommand hsettings hstate hshown =>
      subst hcommand
      rw [lineOutcome_of_ok hsettings, Command.body, answer_status, asking, hstate, ok_bind,
        settled_map_eq_error_iff (Screen.tableText_undiagnosed _)]
      exact hshown

theorem lineOutcome_eq_error_iff
    (hcommand : command = .disable ∨ command = .status)
    (hreport : IsOrdinary h.report)
    (hload : IsOrdinary h.load) :
    lineOutcome command policyFile flags h = .error e ↔ Escapes command policyFile flags h e := by
  refine ⟨fun hfail => ?_, lineOutcome_of_escapes⟩
  cases hsettings : Settings.ofHost h with
  | error g =>
      rw [lineOutcome, hsettings, error_bind] at hfail
      obtain rfl := Except.error.inj hfail
      exact .settings hsettings
  | ok settings =>
      rw [lineOutcome_of_ok hsettings] at hfail
      rcases hcommand with rfl | rfl
      · exact escapes_of_disable hreport hload hsettings hfail
      · exact escapes_of_status hreport hsettings hfail

end Outcome

/-! ## What the user sees -/

/-- A text tells of a failure: it shows the diagnostic with which the action of a command has failed, or the
table of a filter that is not enabled. -/
inductive Tells (command : Command) (policyFile : Option String) (flags : Flags) (h : Host) :
    String → Prop where
  | diagnostic {settings : Settings} {d : Diagnostic} {shown : String}
      (hsettings : Settings.ofHost h = .ok settings)
      (hfail : answer (command.body ⟨settings, policyFile⟩ flags) h = .error (.diagnostic d))
      (hshown : Screen.textOf (Screen.diagnosticMarkup d) = .ok shown) :
      Tells command policyFile flags h (shown ++ "\n")
  | state {settings : Settings} {table : String}
      (hcommand : command = .status)
      (hsettings : Settings.ofHost h = .ok settings)
      (hstate : answer (Lock.probe settings.binary) h = .ok .disabledOrAbsent)
      (hshown : Screen.tableText (stateRows settings.binary .disabledOrAbsent) = .ok table) :
      Tells command policyFile flags h table

section Seen

variable {command : Command} {policyFile : Option String} {flags : Flags} {h : Host}

/-- A diagnostic is told in its own words, with its step between brackets. -/
theorem Tells.eq_of_verbatim
    {settings : Settings} {d : Diagnostic} {text : String}
    (htells : Tells command policyFile flags h text)
    (hsettings : Settings.ofHost h = .ok settings)
    (hfail : answer (command.body ⟨settings, policyFile⟩ flags) h = .error (.diagnostic d))
    (hbracket : '[' ∉ d.step.toList)
    (hstep : Screen.IsVerbatim d.step) (htext : Screen.IsVerbatim d.text) :
    text = "Error (" ++ d.step ++ "): " ++ d.text ++ "\n" := by
  cases htells with
  | diagnostic hsettings' hfail' hshown =>
      obtain rfl := Except.ok.inj (hsettings.symm.trans hsettings')
      obtain rfl := Failure.diagnostic.inj (Except.error.inj (hfail.symm.trans hfail'))
      rw [Screen.textOf_diagnostic_eq hbracket hstep htext] at hshown
      rw [← Except.ok.inj hshown]
  | state hcommand hsettings' hstate hshown =>
      -- a question that has been answered has not failed
      obtain rfl := Except.ok.inj (hsettings.symm.trans hsettings')
      subst hcommand
      rw [Command.body, answer_status, asking, hstate, ok_bind, hshown] at hfail
      cases hfail

/-- A failure that leaves a code is a diagnostic that has been shown. -/
theorem of_settled_ok
    {g : Failure} {code : Nat}
    (hok : settled (.error g) = .ok code) :
    code = failureCode
      ∧ ∃ d shown, g = .diagnostic d ∧ Screen.textOf (Screen.diagnosticMarkup d) = .ok shown := by
  by_cases hg : ∃ d, g = .diagnostic d
  · obtain ⟨d, rfl⟩ := hg
    rw [settled_diagnostic] at hok
    cases hshown : Screen.textOf (Screen.diagnosticMarkup d) with
    | error e =>
        rw [hshown] at hok
        contradiction
    | ok shown =>
        rw [hshown] at hok
        exact ⟨(Except.ok.inj hok).symm, d, shown, rfl, hshown⟩
  · rw [settled_undiagnosed (fun d hd => hg ⟨d, hd⟩)] at hok
    contradiction

theorem code_of_disable
    {c : Context} {code : Nat}
    (hok : answer (disable c flags) h = .ok code) :
    code = 0 := by
  rw [answer_disable, disabling] at hok
  obtain ⟨p, -, hok⟩ := bind_eq_ok_iff.1 hok
  obtain ⟨state, -, hok⟩ := bind_eq_ok_iff.1 hok
  obtain ⟨shown, -, hcode⟩ := map_eq_ok_iff.1 hok
  exact hcode.symm

theorem code_of_status
    {c : Context} {code : Nat}
    (hok : answer (status c) h = .ok code) :
    ∃ state table, answer (Lock.probe c.settings.binary) h = .ok state
      ∧ Screen.tableText (stateRows c.settings.binary state) = .ok table
      ∧ code = stateCode state := by
  rw [answer_status, asking] at hok
  obtain ⟨state, hstate, hok⟩ := bind_eq_ok_iff.1 hok
  obtain ⟨table, htable, hcode⟩ := map_eq_ok_iff.1 hok
  exact ⟨state, table, hstate, htable, hcode.symm⟩

/-- The action of either command ends with code zero, or at last with the table of a filter that is not
enabled. -/
theorem body_ends
    (policyFile : Option String) (flags : Flags) {settings : Settings} {s : Standing}
    (hcommand : command = .disable ∨ command = .status)
    (hsettings : Settings.ofHost s.host = .ok settings) :
    ∃ last, Ends (command.body ⟨settings, policyFile⟩ flags) s
        (answer (command.body ⟨settings, policyFile⟩ flags) s.host) last
      ∧ ∀ code, answer (command.body ⟨settings, policyFile⟩ flags) s.host = .ok code →
        code = 0
          ∨ code = failureCode ∧ ∃ text, Tells command policyFile flags s.host text ∧ .notice text ∈ last := by
  rcases hcommand with rfl | rfl
  · obtain ⟨last, hends⟩ := disable_ends ⟨settings, policyFile⟩ flags s
    rw [← answer_disable] at hends
    exact ⟨last, hends, fun code hcode => .inl (code_of_disable hcode)⟩
  · obtain ⟨last, hends, htable⟩ := status_ends ⟨settings, policyFile⟩ s
    rw [← answer_status] at hends
    refine ⟨last, hends, fun code hcode => ?_⟩
    obtain ⟨state, table, hstate, hshown, rfl⟩ := code_of_status hcode
    by_cases habsent : state = .disabledOrAbsent
    · subst habsent
      exact .inr ⟨rfl, table, .state rfl hsettings hstate hshown, htable _ table hstate hshown⟩
    · exact .inl (if_neg habsent)

/-- A command line ends with code zero, or at last with a text that tells of a failure, where it ends with a
code at all. -/
theorem run_ends
    {words rest : List String} {request : Request} {s : Standing}
    (hcommand : command = .disable ∨ command = .status)
    (hrequest : Request.ofWords s.host words = .ok request)
    (hwords : request.words = command.name :: rest)
    (hflags : command.flags s.host rest = .ok flags) :
    ∃ last, Ends (run words) s (lineOutcome command request.policyFile flags s.host) last
      ∧ ∀ code, lineOutcome command request.policyFile flags s.host = .ok code →
        code = 0
          ∨ code = failureCode
            ∧ ∃ text, Tells command request.policyFile flags s.host text ∧ .notice text ∈ last := by
  have heq : ∀ j : Journal, run words (s.machine j) = _ :=
    fun j => run_run_eq (m := s.machine j) hrequest hwords hflags
  cases hsettings : Settings.ofHost s.host with
  | error e =>
      have hread := (Runs.ofOutcome (s := s) (Settings.ofHost s.host)).of_eq hsettings rfl
      rw [lineOutcome, hsettings, error_bind]
      exact ⟨[], hread.bind_error.ends.of_eq heq, fun code hcode => by contradiction⟩
  | ok settings =>
      have hread := (Runs.ofOutcome (s := s) (Settings.ofHost s.host)).of_eq hsettings rfl
      -- what is shown at last is shown by the action, or by the report of its diagnostic
      obtain ⟨last, hbody, hcode⟩ := body_ends request.policyFile flags
        hcommand hsettings
      obtain ⟨more, hends, hshown⟩ := Command.run_ends hbody
      rw [lineOutcome_of_ok hsettings]
      refine ⟨last ++ more, (Ends.of_runs_bind hread hends).of_eq heq, fun code hok => ?_⟩
      cases hend : answer (command.body ⟨settings, request.policyFile⟩ flags) s.host with
      | ok code' =>
          rw [hend] at hok
          obtain rfl : code' = code := Except.ok.inj hok
          exact (hcode code' hend).imp_right (fun ⟨hone, text, htells, hmem⟩ =>
            ⟨hone, text, htells, List.mem_append_left more hmem⟩)
      | error g =>
          rw [hend] at hok
          obtain ⟨rfl, d, shown, rfl, hd⟩ := of_settled_ok hok
          exact .inr ⟨rfl, _, .diagnostic hsettings hend hd,
            List.mem_append_right last (hshown d shown hend hd)⟩

/-- What an observer sees of such a command line. -/
theorem execute_seen
    (time : String) {words rest : List String} {request : Request} {m : Machine}
    (hcommand : command = .disable ∨ command = .status)
    (hrequest : Request.ofWords m.host words = .ok request)
    (hwords : request.words = command.name :: rest)
    (hflags : command.flags m.host rest = .ok flags) :
    (execute time words m).2.1.outcome = lineOutcome command request.policyFile flags m.host
      ∧ ∀ code, lineOutcome command request.policyFile flags m.host = .ok code →
        code = 0
          ∨ code = failureCode
            ∧ ∃ text, Tells command request.policyFile flags m.host text
              ∧ .notice text ∈ (execute time words m).2.1.journal := by
  obtain ⟨last, hends, htold⟩ := run_ends (s := ⟨m.host, m.scratchFiles, none⟩) hcommand hrequest hwords
    hflags
  obtain ⟨houtcome, before, hjournal⟩ := Ends.observe_eq (m := { m with located := none }) hends
  refine ⟨houtcome, fun code hcode => (htold code hcode).imp_right ?_⟩
  rintro ⟨hone, text, htells, hmem⟩
  exact ⟨hone, text, htells, hjournal ▸ List.mem_append_right before hmem⟩

theorem execute_exitCode
    (time : String) {words rest : List String} {request : Request} {m : Machine} {code : Nat}
    (hcommand : command = .disable ∨ command = .status)
    (hrequest : Request.ofWords m.host words = .ok request)
    (hwords : request.words = command.name :: rest)
    (hflags : command.flags m.host rest = .ok flags)
    (hcode : lineOutcome command request.policyFile flags m.host = .ok code) :
    (execute time words m).1.exitCode = code :=
  (Report.of_ok time (isVerbose m.host words)
    ((execute_seen time hcommand hrequest hwords hflags).1.trans hcode)).1

theorem errorsOf_append
    (time : String) (verbose : Bool) (j k : Journal) :
    errorsOf time verbose (j ++ k) = errorsOf time verbose j ++ errorsOf time verbose k := by
  simp [errorsOf]

/-- What is shown is seen. -/
theorem shown_of_mem
    {text : String} {j : Journal}
    (time : String) (verbose : Bool) (hmem : .notice text ∈ j) :
    ∃ before after, errorsOf time verbose j = before ++ text ++ after := by
  obtain ⟨j, k, rfl⟩ := List.append_of_mem hmem
  refine ⟨errorsOf time verbose j, errorsOf time verbose k, ?_⟩
  have hfirst : errorsOf time verbose (.notice text :: k) = text ++ errorsOf time verbose k := by
    have hcons := errorsOf_append time verbose [.notice text] k
    have hone : errorsOf time verbose [.notice text] = text := String.empty_append
    rwa [hone] at hcons
  rw [errorsOf_append, hfirst, String.append_assoc]

end Seen

/-- A run that takes the lock off or asks about the filter ends with code zero or one, whatever the control
program does except being interrupted. It passes a failure on if and only if that is one of a few: see
`Escapes`. In all other cases no failure is passed on, and where the run ends with code one the user is shown
the diagnostic of what went wrong, or the table of a filter that is not enabled. -/
theorem failures_told_unless_escaping
    (time : String) {command : Command} {words rest : List String} {request : Request} {flags : Flags}
    {m : Machine}
    (hcommand : command = .disable ∨ command = .status)
    (hrequest : Request.ofWords m.host words = .ok request)
    (hwords : request.words = command.name :: rest)
    (hflags : command.flags m.host rest = .ok flags)
    (hreport : ∀ f, m.host.report = .fault f → ∃ e, f = .system e)
    (hload : ∀ f, m.host.load = .fault f → ∃ e, f = .system e) :
    let report := (execute time words m).1
    let outcome := (execute time words m).2.1.outcome
    (report.exitCode = 0 ∨ report.exitCode = 1)
      ∧ (∀ e, outcome = .error e ↔ Escapes command request.policyFile flags m.host e)
      ∧ ((∀ e, ¬ Escapes command request.policyFile flags m.host e) →
          report.failure = none
            ∧ (report.exitCode = 1 → ∃ text, Tells command request.policyFile flags m.host text
              ∧ ∃ before after, report.errors = before ++ text ++ after)) := by
  intro report outcome
  obtain ⟨hline, htold⟩ := execute_seen time hcommand hrequest hwords hflags
  have hiff : ∀ e, outcome = .error e ↔ Escapes command request.policyFile flags m.host e := by
    intro e
    rw [show outcome = _ from hline]
    exact lineOutcome_eq_error_iff hcommand hreport hload
  cases hend : lineOutcome command request.policyFile flags m.host with
  | error e =>
      have hone : report.exitCode = 1 := Report.exitCode_of_error time _ (hline.trans hend)
      exact ⟨.inr hone, hiff, fun hnone => absurd ((hiff e).1 (hline.trans hend)) (hnone e)⟩
  | ok code =>
      obtain ⟨hcode, hfailure, herrors⟩ := Report.of_ok time (isVerbose m.host words) (hline.trans hend)
      rcases htold code hend with rfl | ⟨rfl, text, htells, hmem⟩
      · refine ⟨.inl hcode, hiff, fun _ => ⟨hfailure, fun hone => ?_⟩⟩
        rw [show report.exitCode = 0 from hcode] at hone
        contradiction
      · refine ⟨.inr hcode, hiff, fun _ => ⟨hfailure, fun _ => ⟨text, htells, ?_⟩⟩⟩
        obtain ⟨before, after, hseen⟩ := shown_of_mem time (isVerbose m.host words) hmem
        exact ⟨before, after, herrors.trans hseen⟩

/-! ## A host without the control program, and one whose baseline cannot be looked up -/

/-- A host on which the control program is not installed. -/
def lostHost : Host :=
  { Lock.obligingHost with programs := [] }

theorem lostHost_settings :
    Settings.ofHost lostHost = .ok plainSettings := by
  rfl

/-- Without the control program, the lock cannot be taken off. -/
theorem lostHost_fails :
    answer (Command.disable.body ⟨plainSettings, none⟩ .empty) lostHost
      = .error (.diagnostic (.of .precondition "pfctl not found on PATH")) := by
  have hp : answer (disablingPolicyOf ⟨plainSettings, none⟩ .empty) lostHost = .ok Lock.strictPolicy := rfl
  have hlost : answer (Lock.disable "pfctl" Lock.strictPolicy) lostHost = _ :=
    answer_disable_of_stop [] .program rfl (by simp) (Lock.Check.outcome_of_not rfl)
  rw [Command.body, answer_disable, disabling, hp, ok_bind, show plainSettings.binary = "pfctl" from rfl,
    hlost, error_bind]
  rfl

theorem lostHost_lineOutcome :
    lineOutcome .disable none .empty lostHost = .ok failureCode := by
  rw [lineOutcome_of_ok lostHost_settings, lostHost_fails]
  exact settled_tellable (tellable_precondition _)

/-- This is told to the user. -/
theorem lostHost_failure_told :
    let report := (execute "12:00:00" ["disable"] (.ofHost lostHost)).1
    report.exitCode = 1 ∧ report.failure = none
      ∧ Tells .disable none .empty lostHost "Error (precondition): pfctl not found on PATH\n"
      ∧ ∃ before after,
        report.errors = before ++ "Error (precondition): pfctl not found on PATH\n" ++ after := by
  intro report
  have hrequest : Request.ofWords lostHost ["disable"] = .ok ⟨none, false, ["disable"]⟩ := rfl
  have hflags : Command.disable.flags lostHost [] = .ok .empty := rfl
  have hnone : ∀ e, ¬ Escapes .disable none .empty lostHost e := by
    intro e hescapes
    have hfail := lostHost_lineOutcome.symm.trans (lineOutcome_of_escapes hescapes)
    contradiction
  obtain ⟨-, -, htold⟩ := failures_told_unless_escaping "12:00:00" (m := .ofHost lostHost) (.inl rfl)
    hrequest rfl hflags (fun f hf => by contradiction) (fun f hf => by contradiction)
  obtain ⟨hfailure, htext⟩ := htold hnone
  have hone : report.exitCode = 1 :=
    execute_exitCode "12:00:00" (m := .ofHost lostHost) (.inl rfl) hrequest rfl hflags lostHost_lineOutcome
  obtain ⟨text, htells, hseen⟩ := htext hone
  have hstep : Screen.IsVerbatim "precondition" := Screen.isVerbatim_of_all (by decide)
  have hmessage : Screen.IsVerbatim "pfctl not found on PATH" := Screen.isVerbatim_of_all (by decide)
  obtain rfl : text = "Error (precondition): pfctl not found on PATH\n" :=
    (htells.eq_of_verbatim lostHost_settings lostHost_fails (by decide) hstep hmessage).trans
      (by simp [Diagnostic.of, Category.usualStep])
  exact ⟨hone, hfailure, htells, hseen⟩

/-- A host that grants everything but a look into the directory of the baseline. -/
def deniedHost : Host :=
  { Lock.obligingHost with
    files := ⟨[(["etc"], .unreachable ⟨13, "Permission denied", none⟩), (["tmp"], .directory none)]⟩ }

/-- There the run that should take the lock off is ended by the failure of the look, and the user is told
nothing. -/
theorem deniedHost_disable_untold :
    (execute "12:00:00" ["disable"] (.ofHost deniedHost)).1
      = ⟨1, some (.system ⟨13, "Permission denied", some "/etc/pf.conf"⟩), "", ""⟩ := by
  rfl

end CommandLine
end Killswitch
