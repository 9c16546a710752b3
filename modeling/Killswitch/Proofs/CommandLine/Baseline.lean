import Killswitch.Proofs.CommandLine.Preview
import Killswitch.Proofs.Policy.Merging

/-!
# The baseline that is checked is the one that is restored

Putting the lock on checks the baseline of a policy that is built from all options. Taking it off has a
policy with nothing but a baseline, which it checks and then loads. The two make up the baseline in
different ways, yet from the same places: the command line, the policy file, the environment, and a path
that is used where none of these names one. An empty name counts as none in each of them.

**Results.**
* `approach`, `ChecksBaseline`: what a command does in front of its baseline check, and that it makes it;
* `answer_approach_eq_ok_iff`: when the check is reached;
* `firstNamed_cons`, `baseline_of_policyOf`, `baseline_of_disablingPolicyOf`: the baseline of both commands
  is the first one that is named;
* `enable_loads_checked`, `disable_loads_checked`: what is loaded by either command has passed the check;
* `baseline_checked_eq_restored`: all of it for two command lines with the same words in front.
-/

namespace Killswitch
namespace CommandLine

open Killswitch.Action

/-! ## In front of the check -/

/-- What is done in front of a baseline check: a policy is made, the control program is looked for, and the
user has to be the one who may do everything. The policy is the one whose baseline is checked next. -/
def approach (binary : String) (policy : Action Policy) : Action Policy := do
  let p ← policy
  Lock.Check.program.action binary p
  Lock.Check.superuser.action binary p
  return p

/-- An action checks the baseline of the policy that it makes, and goes on from there. -/
def ChecksBaseline (binary : String) (policy : Action Policy) (a : Action Nat) : Prop :=
  ∃ rest : Policy → Action Nat,
    a = approach binary policy >>= fun p => Lock.Check.baseline.action binary p >>= fun _ => rest p

theorem checksBaseline_of_check
    (binary : String) (policy : Action Policy) (rest : Policy → Action Nat) :
    ChecksBaseline binary policy (policy >>= fun p => Lock.check binary p >>= fun _ => rest p) := by
  refine ⟨fun p => Lock.Check.enabled.action binary p >>= fun _ => rest p, ?_⟩
  simp only [approach, Lock.check_eq, Lock.Check.all, List.forM_eq_forM, List.forM_cons, List.forM_nil,
    bind_assoc, pure_bind]

/-- The policy that a command line takes the lock off with. -/
def disablingPolicyOf (c : Context) (f : Flags) : Action Policy :=
  fileOptions c >>= fun o => pure (disablingPolicy o f)

/-- Tells the user which baseline has been restored. -/
def tellRestored (p : Policy) : Action Nat := do
  Screen.display ("Lock [yellow]disabled[/yellow]: restored " ++ p.baseline)
  Screen.printResult doneMark
  return 0

theorem disable_eq (c : Context) (f : Flags) :
    disable c f = disablingPolicyOf c f >>= fun p =>
      Lock.disable c.settings.binary p >>= fun _ => tellRestored p := by
  simp only [disablingPolicyOf, bind_assoc, pure_bind]
  rfl

theorem enable_checksBaseline (c : Context) (f : Flags) :
    ChecksBaseline c.settings.binary (policyOf c f) (enable c f) := by
  simp only [enable_eq, Lock.enable, bind_assoc]
  exact checksBaseline_of_check _ _ _

theorem disable_checksBaseline (c : Context) (f : Flags) :
    ChecksBaseline c.settings.binary (disablingPolicyOf c f) (disable c f) := by
  simp only [disable_eq, Lock.disable, bind_assoc]
  exact checksBaseline_of_check _ _ _

theorem disablingPolicyOf_consults (c : Context) (f : Flags) :
    Consults Event.Quiet (disablingPolicyOf c f) :=
  (fileOptions_consults c).bind (fun _ => .pure _)

/-- There is such a policy wherever there is a document. -/
theorem answer_disablingPolicyOf (c : Context) (f : Flags) (h : Host) :
    answer (disablingPolicyOf c f) h = (documentOf c h).map (fun document =>
      disablingPolicy { document with baseline := orIfEmpty document.baseline c.settings.baseline } f) := by
  rw [disablingPolicyOf, answer_bind (fileOptions_consults c) (fun _ => .pure _), answer_fileOptions]
  cases documentOf c h <;> rfl

theorem answer_disablingPolicyOf_eq_error_iff
    {c : Context} {f : Flags} {h : Host} {e : Failure} :
    answer (disablingPolicyOf c f) h = .error e ↔ documentOf c h = .error e := by
  rw [answer_disablingPolicyOf]
  cases documentOf c h <;> simp [Except.map]

/-- What is done in front of the check ends as its parts do. -/
theorem answer_approach
    {allowed : Event → Prop} {policy : Action Policy}
    (hpolicy : Consults allowed policy) (binary : String) (h : Host) :
    answer (approach binary policy) h = answer policy h >>= fun p =>
      Lock.Check.program.outcome binary p h >>= fun _ =>
        Lock.Check.superuser.outcome binary p h >>= fun _ => .ok p := by
  let s : Standing := ⟨h, 0, none⟩
  cases hp : answer policy h with
  | error e =>
      have hmade := (hpolicy.runs s).of_eq hp rfl
      exact hmade.bind_error.answer_eq
  | ok p =>
      have hmade := (hpolicy.runs s).of_eq hp rfl
      have hready : Lock.Check.program.Ready binary s := .inl rfl
      cases hfirst : Lock.Check.program.outcome binary p h with
      | error e =>
          have hsought := (Lock.Check.action_runs hready).of_eq hfirst rfl
          rw [ok_bind, hfirst, error_bind]
          exact (hmade.bind hsought.bind_error).answer_eq
      | ok _ =>
          have hsought := (Lock.Check.action_runs hready).of_eq hfirst rfl
          have hready' := Lock.Check.ready_locating (d := .superuser) hready
            (Lock.Check.outcome_eq_ok_iff.1 hfirst)
          cases hsecond : Lock.Check.superuser.outcome binary p h with
          | error e =>
              have hasked := (Lock.Check.action_runs hready').of_eq hsecond rfl
              rw [ok_bind, hfirst, ok_bind, hsecond, error_bind]
              exact (hmade.bind (hsought.bind hasked.bind_error)).answer_eq
          | ok _ =>
              have hasked := (Lock.Check.action_runs hready').of_eq hsecond rfl
              rw [ok_bind, hfirst, ok_bind, hsecond, ok_bind]
              exact (hmade.bind (hsought.bind (hasked.bind (.pure p)))).answer_eq

/-- The check is reached by those who have a policy, find the control program, and may do everything. -/
theorem answer_approach_eq_ok_iff
    {allowed : Event → Prop} {binary : String} {policy : Action Policy} {h : Host} {p : Policy}
    (hpolicy : Consults allowed policy) :
    answer (approach binary policy) h = .ok p
      ↔ answer policy h = .ok p
        ∧ Lock.Check.program.verdict binary p h = .ok true
        ∧ Lock.Check.superuser.verdict binary p h = .ok true := by
  simp only [answer_approach hpolicy, bind_eq_ok_iff, ← Lock.Check.outcome_eq_ok_iff,
    Except.ok.injEq]
  constructor
  · rintro ⟨q, hq, ⟨⟩, hsought, ⟨⟩, hasked, rfl⟩
    exact ⟨hq, hsought, hasked⟩
  · rintro ⟨hp, hsought, hasked⟩
    exact ⟨p, hp, (), hsought, (), hasked, rfl⟩

/-! ## The choice of the baseline -/

def firstNamed (texts : List String) : Option String :=
  texts.find? (· ≠ "")

theorem firstNamed_cons
    {t : String} {rest : List String}
    (hrest : firstNamed rest = some t) (s : String) :
    firstNamed (s :: rest) = some (orIfEmpty s t) := by
  unfold firstNamed orIfEmpty at *
  by_cases hs : s = ""
  · simpa [hs] using hrest
  · simp [hs]

/-- The names of a baseline, the first one that counts first: that of the command line, of the policy file,
of the environment, and the one that is used where there is no other. -/
def baselineNames (h : Host) (f : Flags) (document : Options) : List String :=
  [f.baseline.getD "", document.baseline, (h.environment.lookup "NETLOCK_DEFAULT_CONF").getD "",
    "/etc/pf.conf"]

section Choice

variable {c : Context} {f : Flags} {h : Host} {p : Policy}

/-- The settings have the baseline of the environment, or the usual one. -/
theorem baseline_of_settings
    {settings : Settings} (hsettings : Settings.ofHost h = .ok settings) :
    settings.baseline
      = orIfEmpty ((h.environment.lookup "NETLOCK_DEFAULT_CONF").getD "") usualBaseline := by
  obtain ⟨directory, -, hrest⟩ := bind_eq_ok_iff.1 hsettings
  obtain ⟨policyFile, -, hmade⟩ := bind_eq_ok_iff.1 hrest
  obtain rfl := Except.ok.inj hmade
  change (h.environmentValue? "NETLOCK_DEFAULT_CONF").getD usualBaseline = _
  unfold Host.environmentValue? orIfEmpty
  cases h.environment.lookup "NETLOCK_DEFAULT_CONF" with
  | none =>
      rfl
  | some value =>
      by_cases hvalue : value = ""
      · simp [hvalue]
      · simp [hvalue]

/-- Each of the places counts only where the ones before it name nothing. -/
theorem firstNamed_baselineNames
    (document : Options)
    (hsettings : Settings.ofHost h = .ok c.settings) :
    firstNamed (baselineNames h f document)
      = some (orIfEmpty
          (orIfEmpty (f.baseline.getD "") (orIfEmpty document.baseline c.settings.baseline))
          usualBaseline) := by
  have hsettled : firstNamed [(h.environment.lookup "NETLOCK_DEFAULT_CONF").getD "", "/etc/pf.conf"]
      = some c.settings.baseline := by
    rw [baseline_of_settings hsettings]
    exact firstNamed_cons rfl _
  have hnamed := firstNamed_cons (firstNamed_cons hsettled document.baseline) (f.baseline.getD "")
  have hnotEmpty : c.settings.baseline ≠ "" := by
    rw [baseline_of_settings hsettings]
    exact orIfEmpty_ne_empty (by decide)
  -- a name has been found by now, so that the usual one is not needed
  rw [baselineNames, hnamed, orIfEmpty.eq_1 _ usualBaseline,
    if_neg (orIfEmpty_ne_empty (orIfEmpty_ne_empty hnotEmpty))]

/-- The baseline that is checked when the lock is put on. -/
theorem baseline_of_policyOf
    (hsettings : Settings.ofHost h = .ok c.settings)
    (hp : answer (policyOf c f) h = .ok p) :
    ∃ document, documentOf c h = .ok document
      ∧ firstNamed (baselineNames h f document) = some p.baseline := by
  rw [answer_policyOf, requested, answer_fileOptions] at hp
  obtain ⟨options, hoptions, hbuilt⟩ := bind_eq_ok_iff.1 hp
  obtain ⟨asked, hasked, rfl⟩ := map_eq_ok_iff.1 hoptions
  obtain ⟨document, hdocument, rfl⟩ := map_eq_ok_iff.1 hasked
  obtain ⟨destinations, tunnel, -, -, rfl⟩ := Policy.exists_assembled hbuilt
  exact ⟨document, hdocument, firstNamed_baselineNames document hsettings⟩

/-- The baseline that is checked when the lock is taken off. -/
theorem baseline_of_disablingPolicyOf
    (hsettings : Settings.ofHost h = .ok c.settings)
    (hp : answer (disablingPolicyOf c f) h = .ok p) :
    ∃ document, documentOf c h = .ok document
      ∧ firstNamed (baselineNames h f document) = some p.baseline := by
  rw [answer_disablingPolicyOf] at hp
  obtain ⟨document, hdocument, rfl⟩ := map_eq_ok_iff.1 hp
  exact ⟨document, hdocument, firstNamed_baselineNames document hsettings⟩

end Choice

/-! ## What is loaded -/

section Loading

variable {m : Machine} {words rest : List String} {request : Request} {flags : Flags}

/-- What putting the lock on loads is loaded once the baseline of its policy has been checked. -/
theorem enable_loads_checked
    (c : Context) (f : Flags) (s : Standing) :
    ∃ (o : Except Failure Nat) (t : Standing) (d : Journal),
      Runs (enable c f) s o t d
        ∧ ∀ arguments text, .load arguments text ∈ d.calls →
          ∃ p, answer (policyOf c f) s.host = .ok p ∧ Lock.Cleared c.settings.binary p s.host := by
  obtain ⟨o, t, d, asked, hrun, hasks, hend⟩ := exists_enable_runs c f s
  refine ⟨o, t, d, hrun, fun arguments text hload => ?_⟩
  rcases hend with ⟨e, -, hd⟩ | ⟨p, calls, o', t', hp, hcourse, hd⟩
  · exact absurd (hd ▸ hload) (not_load_mem_of_onlyAsks hasks)
  · have hmem := (List.mem_append.1 (hd ▸ hload)).resolve_left (not_load_mem_of_onlyAsks hasks)
    exact ⟨p, hp, (hcourse.loads_iff.1 ⟨arguments, text, hmem⟩).1⟩

/-- What is told of a baseline that has been restored requests nothing. -/
theorem tellRestored_consults (p : Policy) :
    Consults NoRequest (tellRestored p) :=
  ((display_consults _).mono (fun _ => noRequest_of_quiet)).bind (fun _ =>
    (Consults.enter (by simp [NoRequest])).bind (fun _ => .pure _))

/-- What taking the lock off loads is the baseline of its policy, once that has been checked. -/
theorem disable_loads_checked
    (c : Context) (f : Flags) (s : Standing) :
    ∃ (o : Except Failure Nat) (t : Standing) (d : Journal),
      Runs (disable c f) s o t d
        ∧ ∀ arguments text, .load arguments text ∈ d.calls →
          ∃ p program, answer (disablingPolicyOf c f) s.host = .ok p
            ∧ Lock.Cleared c.settings.binary p s.host
            ∧ arguments = Engine.loadCommand program p.baseline := by
  have hquiet : (entries (disablingPolicyOf c f) s.host).calls = [] :=
    calls_eq_nil (fun e he =>
      noRequest_of_quiet ((disablingPolicyOf_consults c f).entries_allowed s.host e he))
  obtain ⟨o, t, d, hrun, hend⟩ := exists_runs_of_work (disablingPolicyOf_consults c f).any
    tellRestored_consults (fun p => Lock.exists_disable_runs c.settings.binary p s)
  rw [disable_eq]
  refine ⟨o, t, d, hrun, fun arguments text hload => ?_⟩
  rcases hend with ⟨e, -, hd⟩ | ⟨p, calls, hp, hloads, hd⟩
  · rw [hd, hquiet] at hload
    contradiction
  · rw [hd, hquiet] at hload
    obtain ⟨hcleared, program, -, harguments, -⟩ := hloads arguments text hload
    exact ⟨p, program, hp, hcleared, harguments⟩

/-- What a command line loads is loaded by the action of its command, with the settings of the host. -/
theorem exists_settings_of_load
    (time : String) (command : Command) (loads : Settings → List String → Prop)
    {arguments : List String} {text : Option String}
    (hrequest : Request.ofWords m.host words = .ok request)
    (hwords : request.words = command.name :: rest)
    (hflags : command.flags m.host rest = .ok flags)
    (hbody : ∀ settings, ∃ (o : Except Failure Nat) (t : Standing) (d : Journal),
      Runs (command.body ⟨settings, request.policyFile⟩ flags) ⟨m.host, m.scratchFiles, none⟩ o t d
        ∧ ∀ arguments text, .load arguments text ∈ d.calls → loads settings arguments)
    (hload : .load arguments text ∈ (execute time words m).2.1.journal.calls) :
    ∃ settings, Settings.ofHost m.host = .ok settings ∧ loads settings arguments := by
  cases hsettings : Settings.ofHost m.host with
  | error e =>
      obtain ⟨hcalls, -, -, -⟩ := execute_of_runs time (m := m)
        (run_runs_of_error command hrequest hwords hflags hsettings)
      rw [hcalls] at hload
      contradiction
  | ok settings =>
      obtain ⟨o, t, d, hrun, hloads⟩ := hbody settings
      obtain ⟨hcalls, -, -, -⟩ := execute_of_runs time
        (run_runs_of_ok command hrequest hwords hflags hsettings (command.run_runs hrun))
      exact ⟨settings, rfl, hloads arguments text (hcalls ▸ hload)⟩

end Loading

/-! ## Two command lines with the same words in front -/

/-- A command line reaches its baseline check on a host with a policy: there are settings, and all that its
command does in front of the check (see `ChecksBaseline`) succeeds. -/
def ReachesCheck (policy : Context → Action Policy) (policyFile : Option String) (h : Host)
    (p : Policy) : Prop :=
  ∃ settings, Settings.ofHost h = .ok settings
    ∧ answer (approach settings.binary (policy ⟨settings, policyFile⟩)) h = .ok p

/-- Where all checks of a policy hold, its baseline has been reached. -/
theorem reachesCheck_of_cleared
    {allowed : Event → Prop} {policy : Context → Action Policy} {policyFile : Option String} {h : Host}
    {settings : Settings} {p : Policy}
    (hpolicy : ∀ c, Consults allowed (policy c))
    (hsettings : Settings.ofHost h = .ok settings)
    (hp : answer (policy ⟨settings, policyFile⟩) h = .ok p)
    (hcleared : Lock.Cleared settings.binary p h) :
    ReachesCheck policy policyFile h p :=
  ⟨settings, hsettings, (answer_approach_eq_ok_iff (hpolicy _)).2
    ⟨hp, hcleared .program (by simp [Lock.Check.all]), hcleared .superuser (by simp [Lock.Check.all])⟩⟩

/-- A baseline that is checked is the first one that is named, if that holds of the policy of the command. -/
theorem firstNamed_of_reachesCheck
    {allowed : Event → Prop} {policy : Context → Action Policy} {policyFile : Option String}
    {flags : Flags} {h : Host} {p : Policy}
    (hpolicy : ∀ c, Consults allowed (policy c))
    (hnamed : ∀ c, Settings.ofHost h = .ok c.settings → answer (policy c) h = .ok p →
      ∃ document, documentOf c h = .ok document
        ∧ firstNamed (baselineNames h flags document) = some p.baseline)
    (hreached : ReachesCheck policy policyFile h p) :
    ∃ settings document, Settings.ofHost h = .ok settings
      ∧ documentOf ⟨settings, policyFile⟩ h = .ok document
      ∧ firstNamed (baselineNames h flags document) = some p.baseline := by
  obtain ⟨settings, hsettings, hmade⟩ := hreached
  obtain ⟨hp, -, -⟩ := (answer_approach_eq_ok_iff (hpolicy _)).1 hmade
  obtain ⟨document, hdocument, hfirst⟩ := hnamed ⟨settings, policyFile⟩ hsettings hp
  exact ⟨settings, document, hsettings, hdocument, hfirst⟩

/-- Putting the lock on and taking it off both check a baseline. Behind the same words, on the same machine,
with the same baseline on the command line, it is the same one whenever both reach their check: the first one
that is named by the command line, the policy file, the environment, or else the usual one. What putting the lock on loads is
loaded only once this baseline has been found to be there, and taking the lock off loads nothing else. -/
theorem baseline_checked_eq_restored
    (time : String) {globals rest rest' : List String} {policyFile : Option String} {verbose : Bool}
    {flags flags' : Flags} {m : Machine}
    (hrequest : Request.ofWords m.host (globals ++ "enable" :: rest)
      = .ok ⟨policyFile, verbose, "enable" :: rest⟩)
    (hflags : Command.enable.flags m.host rest = .ok flags)
    (hflags' : Command.disable.flags m.host rest' = .ok flags')
    (hbaseline : flags.baseline = flags'.baseline) :
    let enabling := (execute time (globals ++ "enable" :: rest) m).2.1.journal.calls
    let disabling := (execute time (globals ++ "disable" :: rest') m).2.1.journal.calls
    let EnableChecks := ReachesCheck (policyOf · flags) policyFile m.host
    let DisableChecks := ReachesCheck (disablingPolicyOf · flags') policyFile m.host
    (∀ settings,
      ChecksBaseline settings.binary (policyOf ⟨settings, policyFile⟩ flags)
          (enable ⟨settings, policyFile⟩ flags)
        ∧ ChecksBaseline settings.binary (disablingPolicyOf ⟨settings, policyFile⟩ flags')
          (disable ⟨settings, policyFile⟩ flags'))
      ∧ (∀ p p', EnableChecks p → DisableChecks p' → p.baseline = p'.baseline)
      ∧ (∀ p, EnableChecks p ∨ DisableChecks p → ∃ settings document,
          Settings.ofHost m.host = .ok settings
          ∧ documentOf ⟨settings, policyFile⟩ m.host = .ok document
          ∧ firstNamed [flags.baseline.getD "", document.baseline,
              (m.host.environment.lookup "NETLOCK_DEFAULT_CONF").getD "", "/etc/pf.conf"]
            = some p.baseline)
      ∧ (∀ arguments text, .load arguments text ∈ enabling →
          ∃ p, EnableChecks p ∧ m.host.holds (Path.ofString p.baseline) = .ok true)
      ∧ (∀ arguments text, .load arguments text ∈ disabling →
          ∃ p program, DisableChecks p ∧ arguments = [program, "-F", "all", "-f", p.baseline]) := by
  intro enabling disabling EnableChecks DisableChecks
  have hother : Request.ofWords m.host (globals ++ "disable" :: rest')
      = .ok ⟨policyFile, verbose, "disable" :: rest'⟩ :=
    ofWords_globals ⟨by decide, rfl⟩ ⟨by decide, rfl⟩ hrequest
  have hnames : ∀ document, baselineNames m.host flags' document
      = baselineNames m.host flags document := by
    intro document
    rw [baselineNames, baselineNames, hbaseline]
  have hchosen : ∀ p, EnableChecks p ∨ DisableChecks p → ∃ settings document,
      Settings.ofHost m.host = .ok settings
        ∧ documentOf ⟨settings, policyFile⟩ m.host = .ok document
        ∧ firstNamed (baselineNames m.host flags document) = some p.baseline := by
    rintro p (hp | hp)
    · exact firstNamed_of_reachesCheck (policyOf_consults · flags)
        (fun c hsettings hmade => baseline_of_policyOf hsettings hmade) hp
    · refine firstNamed_of_reachesCheck (disablingPolicyOf_consults · flags') ?_ hp
      simp only [← hnames]
      exact fun c hsettings hmade => baseline_of_disablingPolicyOf hsettings hmade
  refine ⟨fun settings => ⟨enable_checksBaseline _ _, disable_checksBaseline _ _⟩, ?_, hchosen, ?_, ?_⟩
  · intro p p' hp hp'
    obtain ⟨settings, document, hsettings, hdocument, hfirst⟩ := hchosen p (.inl hp)
    obtain ⟨settings', document', hsettings', hdocument', hfirst'⟩ := hchosen p' (.inr hp')
    obtain rfl := Except.ok.inj (hsettings.symm.trans hsettings')
    obtain rfl := Except.ok.inj (hdocument.symm.trans hdocument')
    exact Option.some.inj (hfirst.symm.trans hfirst')
  · intro arguments text hload
    obtain ⟨settings, hsettings, p, hp, hcleared⟩ :=
      exists_settings_of_load time .enable
        (fun settings _ => ∃ p, answer (policyOf ⟨settings, policyFile⟩ flags) m.host = .ok p
          ∧ Lock.Cleared settings.binary p m.host)
        hrequest rfl hflags (fun settings => enable_loads_checked ⟨settings, policyFile⟩ flags _) hload
    obtain ⟨-, -, -, hthere, -⟩ := Lock.cleared_iff.1 hcleared
    exact ⟨p, reachesCheck_of_cleared (policyOf_consults · flags) hsettings hp hcleared, hthere⟩
  · intro arguments text hload
    obtain ⟨settings, hsettings, p, program, hp, hcleared, harguments⟩ :=
      exists_settings_of_load time .disable
        (fun settings arguments => ∃ p program,
          answer (disablingPolicyOf ⟨settings, policyFile⟩ flags') m.host = .ok p
            ∧ Lock.Cleared settings.binary p m.host
            ∧ arguments = Engine.loadCommand program p.baseline)
        hother rfl hflags' (fun settings => disable_loads_checked ⟨settings, policyFile⟩ flags' _) hload
    exact ⟨p, program, reachesCheck_of_cleared (disablingPolicyOf_consults · flags') hsettings hp hcleared,
      harguments⟩

/-! ## A host whose environment names the baseline -/

/-- A host that grants everything, and whose environment names a baseline. -/
def namingHost : Host :=
  { Lock.obligingHost with
    files := ⟨[(["etc", "base.conf"], .file [] none), (["tmp"], .directory none)]⟩
    environment := [("HOME", "/home/user"), ("NETLOCK_DEFAULT_CONF", "/etc/base.conf")] }

def namedSettings : Settings :=
  { plainSettings with baseline := "/etc/base.conf" }

/-- Options that name an empty baseline. -/
def unnamedFlags : Flags :=
  { Flags.empty with baseline := some "" }

/-- An empty name on the command line counts as none, so that both commands check the baseline of the
environment. -/
theorem namingHost_checks_same :
    ∃ p p', ReachesCheck (policyOf · { unnamedFlags with useRouting := true }) none namingHost p
      ∧ ReachesCheck (disablingPolicyOf · unnamedFlags) none namingHost p'
      ∧ p.baseline = p'.baseline
      ∧ p.baseline = "/etc/base.conf" := by
  have hrequest : Request.ofWords namingHost ([] ++ "enable" :: ["-r", "--default-conf", ""])
      = .ok ⟨none, false, "enable" :: ["-r", "--default-conf", ""]⟩ := rfl
  have hflags : Command.enable.flags namingHost ["-r", "--default-conf", ""]
      = .ok { unnamedFlags with useRouting := true } := rfl
  have hflags' : Command.disable.flags namingHost ["--default-conf", ""] = .ok unnamedFlags := rfl
  have hsettings : Settings.ofHost namingHost = .ok namedSettings := rfl
  have hchecks : ∃ p, ReachesCheck (policyOf · { unnamedFlags with useRouting := true }) none
      namingHost p := ⟨_, namedSettings, hsettings, rfl⟩
  have hchecks' : ∃ p, ReachesCheck (disablingPolicyOf · unnamedFlags) none namingHost p :=
    ⟨_, namedSettings, hsettings, rfl⟩
  obtain ⟨⟨p, hp⟩, p', hp'⟩ := hchecks, hchecks'
  obtain ⟨-, hsame, hfirst, -, -⟩ := baseline_checked_eq_restored "12:00:00" (m := .ofHost namingHost)
    hrequest hflags hflags' rfl
  obtain ⟨settings, document, hsettings', hdocument, hnamed⟩ := hfirst p (.inl hp)
  obtain rfl := Except.ok.inj (hsettings.symm.trans hsettings')
  obtain rfl : Options.empty = document := Except.ok.inj hdocument
  refine ⟨p, p', hp, hp', hsame p p' hp hp', ?_⟩
  exact (Option.some.inj ((show some "/etc/base.conf" = _ from rfl).trans hnamed)).symm

end CommandLine
end Killswitch
