import Killswitch.Proofs.Lock.Asking
import Killswitch.Proofs.Lock.Session

/-!
# What a session leaves in the file system

Only a step that puts the lock on changes files, and it changes none but its own ruleset file. That file
is gone when the step ends, unless it could not be removed, or the writing of the rules was ended by
anything other than the operating system: an interruption leaves the file behind.

**Results.**
* `KeepsHost`, `Step.run_keepsHost`: actions that leave the host as it is;
* `Abandons`: when a step leaves its ruleset file behind;
* `host_kept`, `scratchPath_left`: what a step leaves where it does not, and where it does;
* `scratchFiles_kept_iff`: the scratch files of a session.
-/

namespace Killswitch

/-! ## Actions that keep the host -/

namespace Action

variable {α β : Type}

/-- An action leaves the host as it is. -/
def KeepsHost (a : Action α) : Prop :=
  ∀ m : Machine, (a m).2.host = m.host

theorem unconcerned_host :
    Unconcerned Machine.host where
  located _ _ := rfl
  remark _ _ _ := rfl
  locate _ _ := rfl
  run _ _ _ := rfl

/-- Entering an event leaves the host as it is. -/
theorem enter_keeps_host (e : Event) :
    Keeps Machine.host (enter e) := by
  intro m
  rfl

end Action

open Killswitch.Action

theorem Engine.load_keeps_host (binary file : String) :
    Keeps Machine.host (Engine.load binary file) :=
  Engine.load_keeps unconcerned_host (fun _ _ _ => rfl) binary file

namespace Lock

/-! ## Steps -/

theorem disable_keeps_host (binary : String) (p : Policy) :
    Keeps Machine.host (disable binary p) := by
  unfold disable
  exact (check_keeps unconcerned_host binary p).bind (fun _ =>
    (Engine.load_keeps_host binary p.baseline).bind (fun _ =>
      (enter_keeps_host _).bind (fun _ => (enter_keeps_host _).bind (fun _ => .pure _))))

/-- A step that does not put the lock on leaves the host as it is. -/
theorem Step.run_keepsHost
    (binary : String) {s : Step} (hs : ∀ p, s ≠ .enable p) :
    KeepsHost (s.run binary) := by
  change Keeps Machine.host (s.run binary)
  cases s with
  | enable p =>
      exact absurd rfl (hs p)
  | disable p =>
      exact (disable_keeps_host binary p).map _
  | rules p =>
      exact .pure _
  | isEnabled =>
      exact (isEnabled_keeps unconcerned_host binary).map _
  | probe =>
      exact (probe_keeps unconcerned_host binary).map _
  | locate =>
      exact (Engine.locate_keeps unconcerned_host binary).map _
  | status =>
      exact (Engine.status_keeps unconcerned_host binary).map _
  | load file =>
      exact (Engine.load_keeps_host binary file).map _

/-! ## The ruleset file of a step -/

/-- Putting the lock on ends with its ruleset file left behind: all checks hold, the file is created, and
the writing fails with anything other than a refusal of the operating system. -/
def Abandons (binary : String) (p : Policy) (h : Host) : Prop :=
  Cleared binary p h
    ∧ h.scratch.create = none
    ∧ ∃ f, h.scratch.write = some f ∧ ∀ e, f ≠ .system e

section Places

variable {binary : String} {m : Machine} {before : List Move} {p : Policy}

theorem dropping_host
    {s : Standing} {bytes : List UInt8}
    (hremove : s.host.scratch.remove = none)
    (hfresh : s.Fresh) :
    (s.dropping bytes).host = s.host := by
  have hspent : s.dropping bytes = s.spent := by
    rw [Standing.dropping, hremove]
  rw [hspent, Standing.spent_eq hfresh]

/-- Where a scratch file can be removed and its place was free, putting the lock on leaves the host as it
was, unless the ruleset file is abandoned. -/
theorem host_kept
    (hremove : (reached binary m before).host.scratch.remove = none)
    (hfresh : (reached binary m before).standing.Fresh)
    (hnot : ¬ Abandons binary p (reached binary m before).host) :
    (reached binary m (before ++ [.step (.enable p)])).host = (reached binary m before).host
      ∧ (seenAfter binary m before (.enable p)).scratchFiles
          = (reached binary m before).host.scratchFiles := by
  obtain ⟨o, t, calls, hcourse⟩ := exists_enableCourse binary p (reached binary m before).standing
  obtain ⟨-, -, hfiles, hhost⟩ :=
    seenAfter_of_runs (s := .enable p) (hcourse.runs.map (f := Answer.state))
  have hdropped : ∀ bytes, (((reached binary m before).standing.locating binary).dropping bytes).host
      = (reached binary m before).host :=
    fun _ => dropping_host (s := (reached binary m before).standing.locating binary) hremove hfresh
  have ht : t.host = (reached binary m before).host := by
    cases hcourse with
    | stopped hall hholds hstop =>
        rfl
    | uncreated hcleared hcreate =>
        rfl
    | @unwritten f hcleared hcreate hwrite =>
        by_cases hf : ∃ e, f = .system e
        · obtain ⟨e, rfl⟩ := hf
          exact hdropped []
        · exact absurd ⟨hcleared, hcreate, f, hwrite, fun e he => hf ⟨e, he⟩⟩ hnot
    | loaded hcleared hprogram hcreate hwrite =>
        exact hdropped _
  exact ⟨hhost.trans ht, hfiles.trans (congrArg Host.scratchFiles ht)⟩

/-- An abandoned ruleset file is a scratch file that was not there before. -/
theorem scratchPath_left
    (hfresh : (reached binary m before).standing.Fresh)
    (habandons : Abandons binary p (reached binary m before).host) :
    (reached binary m before).standing.nextPath ∈ (seenAfter binary m before (.enable p)).scratchFiles
      ∧ (reached binary m before).standing.nextPath ∉ (reached binary m before).host.scratchFiles := by
  obtain ⟨hcleared, hcreate, f, hwrite, hf⟩ := habandons
  have hrun := (enable_runs_of_write (s := (reached binary m before).standing)
    hcleared hcreate hwrite).map (f := Answer.state)
  obtain ⟨-, -, hfiles, -⟩ := seenAfter_of_runs (s := .enable p) hrun
  constructor
  · rw [hfiles, Standing.unwritten_eq_holding _ hf]
    exact Host.mem_scratchFiles_iff.2 (by
      simp only [Standing.holding]
      exact (congrArg (Option.any Node.isFile) FileSystem.lookup_put_self).trans rfl)
  · intro hmem
    have hthere := Host.mem_scratchFiles_iff.1 hmem
    have hfree : (reached binary m before).host.files.entries.lookup (Host.scratchDirectory
        ++ [scratchName ((reached binary m before).standing.scratchFiles + 1)]) = none :=
      hfresh
    rw [hfree] at hthere
    contradiction

end Places

/-! ## Sessions -/

/-- What the changes among some moves make of a host. -/
def changed : List Move → Host → Host
  | [], h => h
  | .change c :: rest, h => changed rest (c h)
  | .step _ :: rest, h => changed rest h

/-- A session whose steps all keep the host leaves what the changes make of it. -/
theorem host_reached
    {binary : String} {m : Machine} {moves : List Move}
    (hkept : ∀ before s after, moves = before ++ .step s :: after →
      (reached binary m (before ++ [.step s])).host = (reached binary m before).host) :
    (reached binary m moves).host = changed moves m.host := by
  induction moves generalizing m with
  | nil =>
      rfl
  | cons move moves ih =>
      have hrest : ∀ m', (∀ before, reached binary m (move :: before) = reached binary m' before) →
          (reached binary m' moves).host = changed moves m'.host := by
        intro m' hm'
        refine ih (fun before s after hmoves => ?_)
        have h := hkept (move :: before) s after (by rw [hmoves]; rfl)
        rwa [List.cons_append, hm', hm'] at h
      cases move with
      | step s =>
          have hfirst := hkept [] s moves rfl
          exact (hrest _ (fun _ => rfl)).trans (congrArg (changed moves) hfirst)
      | change c =>
          exact hrest { m with host := c m.host } (fun _ => rfl)

/-- In a session in which scratch files can be removed and their places are free, a step that puts the lock
on leaves the scratch files as they were, unless the writing of its ruleset file is ended by anything other
than a refusal of the operating system; then it leaves that file. Where no step does so, a session leaves
all files as the changes between its steps make them. -/
theorem scratchFiles_kept_iff
    {binary : String} {m : Machine} {moves : List Move}
    (hplaces : ∀ before p after, moves = before ++ .step (.enable p) :: after →
      (reached binary m before).host.scratch.remove = none
        ∧ (reached binary m before).standing.Fresh) :
    (∀ before p after, moves = before ++ .step (.enable p) :: after →
        ((seenAfter binary m before (.enable p)).scratchFiles
            = (reached binary m before).host.scratchFiles
          ↔ ¬ Abandons binary p (reached binary m before).host))
      ∧ ((∀ before p after, moves = before ++ .step (.enable p) :: after →
            ¬ Abandons binary p (reached binary m before).host) →
          (reached binary m moves).host = changed moves m.host) := by
  constructor
  · intro before p after hmoves
    obtain ⟨hremove, hfresh⟩ := hplaces before p after hmoves
    constructor
    · intro hsame habandons
      obtain ⟨hleft, hnew⟩ := scratchPath_left hfresh habandons
      exact hnew (hsame ▸ hleft)
    · intro hnot
      exact (host_kept hremove hfresh hnot).2
  · intro hnone
    refine host_reached (fun before s after hmoves => ?_)
    by_cases hs : ∃ p, s = .enable p
    · obtain ⟨p, rfl⟩ := hs
      obtain ⟨hremove, hfresh⟩ := hplaces before p after hmoves
      exact (host_kept hremove hfresh (hnone before p after hmoves)).1
    · rw [reached_append]
      exact Step.run_keepsHost binary (fun p hp => hs ⟨p, hp⟩) _

/-- Nothing is left on a host that grants everything. -/
theorem obligingHost_kept :
    (reached "pfctl" (.ofHost obligingHost) [.step (.enable strictPolicy)]).host = obligingHost := by
  have hfirst : ∀ before p after,
      [Move.step (.enable strictPolicy)] = before ++ .step (.enable p) :: after → before = [] := by
    intro before p after hmoves
    cases before with
    | nil =>
        rfl
    | cons move before =>
        simp at hmoves
  refine (scratchFiles_kept_iff (fun before p after hmoves => ?_)).2 (fun before p after hmoves => ?_)
  · rw [hfirst before p after hmoves]
    exact ⟨rfl, rfl⟩
  · rw [hfirst before p after hmoves]
    rintro ⟨-, -, f, hwrite, -⟩
    contradiction

/-- A host on which the user interrupts the writing of scratch files. -/
def interruptedHost : Host :=
  { obligingHost with scratch := ⟨none, some .interrupt, none⟩ }

/-- An interruption of the writing leaves the ruleset file behind, although it could be removed. -/
theorem interruptedHost_leaves_file :
    interruptedHost.scratch.remove = none
      ∧ (Machine.ofHost interruptedHost).standing.Fresh
      ∧ (seenAfter "pfctl" (.ofHost interruptedHost) [] (.enable strictPolicy)).scratchFiles
          ≠ interruptedHost.scratchFiles := by
  have habandons : Abandons "pfctl" strictPolicy interruptedHost :=
    ⟨obligingHost_cleared, rfl, .interrupt, rfl, by simp⟩
  have hfresh : (reached "pfctl" (.ofHost interruptedHost) []).standing.Fresh := rfl
  obtain ⟨hleft, hnew⟩ := scratchPath_left hfresh habandons
  exact ⟨rfl, rfl, fun hsame => hnew (hsame ▸ hleft)⟩

end Lock
end Killswitch
