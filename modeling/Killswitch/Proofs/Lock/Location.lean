import Killswitch.Proofs.Action.Consult
import Killswitch.Proofs.Lock.Session

/-!
# Where the control program is found

A machine remembers where the control program was found last, and the engine runs it from there. The
operations of the lock do not rely on that: each of them looks for the program before it does anything else,
so what is remembered from before makes no difference to it. What it runs is the program that it has found
itself, and never one that was found by an earlier step and has been replaced since.

**Results.**
* `Forgets`, `Forgets.bind`: actions that what is remembered makes no difference to; only what an action
  does first counts;
* `check_forgets`, `enable_forgets`, `disable_forgets`, `probe_forgets`: the operations of the lock;
* `Guided`, `Guided.run`: requests that run nothing but the program that was looked for last;
* `Step.guided`: the requests of an operation;
* `operation_depends_on_world`: both together, and what they say of a session.
-/

namespace Killswitch

/-! ## Requests that run a program -/

namespace Call

/-- The command of a request that runs a program. -/
def command? : Call → Option (List String)
  | .run arguments _ => some arguments
  | .load arguments _ => some arguments
  | _ => none

/-- The program that a request looks for. -/
def sought? : Call → Option String
  | .locate binary => some binary
  | _ => none

end Call

/-- A machine whose engine has not been used, and whose journal is empty. -/
def Machine.renewed (m : Machine) : Machine :=
  ⟨m.host, m.scratchFiles, none, []⟩

namespace Action

variable {α β : Type}

/-- What is remembered of the control program makes no difference to an action: neither to its outcome nor
to the machine that it leaves. -/
def Forgets (a : Action α) : Prop :=
  ∀ (m : Machine) (found : Option String), a { m with located := found } = a m

namespace Forgets

/-- What is remembered has been replaced once the first of two actions has run. -/
theorem bind
    {a : Action α}
    (ha : Forgets a) (f : α → Action β) :
    Forgets (a >>= f) := by
  intro m found
  rw [bind_run, bind_run, ha m found]

theorem map
    {a : Action α}
    (ha : Forgets a) (f : α → β) :
    Forgets (f <$> a) := by
  intro m found
  rw [map_run, map_run, ha m found]

end Forgets
end Action

open Killswitch.Action

theorem Engine.locate_forgets (binary : String) :
    Forgets (locate binary) := by
  intro m found
  rfl

namespace Lock

variable {binary : String} {p : Policy}

theorem check_forgets (binary : String) (p : Policy) :
    Forgets (check binary p) :=
  (Engine.locate_forgets binary).bind _

theorem enable_forgets (binary : String) (p : Policy) :
    Forgets (enable binary p) :=
  (check_forgets binary p).bind _

theorem disable_forgets (binary : String) (p : Policy) :
    Forgets (disable binary p) :=
  (check_forgets binary p).bind _

theorem probe_forgets (binary : String) :
    Forgets (probe binary) :=
  (Engine.locate_forgets binary).bind _

/-- A step that is an operation of the lock, and not a request to the engine alone. -/
def Step.IsOperation : Step → Prop
  | .enable _ => True
  | .disable _ => True
  | .rules _ => True
  | .probe => True
  | _ => False

/-- Nothing that can be seen of an operation depends on what is remembered of the control program, nor does
the host that it leaves. -/
theorem Step.observe_eq
    (binary : String) {s : Step}
    (hs : s.IsOperation) (m : Machine) (found : Option String) :
    ((s.run binary).observe { m with located := found }).1 = ((s.run binary).observe m).1
      ∧ ((s.run binary).observe { m with located := found }).2.host
          = ((s.run binary).observe m).2.host := by
  have hforgotten : Forgets (s.run binary) →
      (s.run binary).observe { m with located := found } = (s.run binary).observe m := by
    intro ha
    have hrun := ha { m with journal := [] } found
    rw [observe, observe, ← hrun]
  cases s with
  | enable p =>
      rw [hforgotten ((enable_forgets binary p).map _)]
      exact ⟨rfl, rfl⟩
  | disable p =>
      rw [hforgotten ((disable_forgets binary p).map _)]
      exact ⟨rfl, rfl⟩
  | rules p =>
      -- the engine is not used, so that nothing is replaced either
      exact ⟨rfl, rfl⟩
  | probe =>
      rw [hforgotten ((probe_forgets binary).map _)]
      exact ⟨rfl, rfl⟩
  | isEnabled =>
      contradiction
  | locate =>
      contradiction
  | status =>
      contradiction
  | load file =>
      contradiction

/-! ## The program that is run -/

/-- A request that looks for the control program again, or runs it from where the host has it. -/
def Concerns (binary : String) (h : Host) (call : Call) : Prop :=
  call = .locate binary
    ∨ ∃ program arguments, h.programs.lookup binary = some program
        ∧ call.command? = some (program :: arguments)

/-- Requests of which the first one, if there is any, looks for the control program, and all others look
for it again or run it. -/
structure Guided (binary : String) (h : Host) (calls : List Call) : Prop where
  first : ∀ call ∈ calls.head?, call = .locate binary
  concerns : ∀ call ∈ calls, Concerns binary h call

/-- What is run is the program that was looked for last, from where it was found then. -/
theorem Guided.run
    {h : Host} {calls before after : List Call} {call : Call} {command : List String}
    (hguided : Guided binary h calls)
    (hcalls : calls = before ++ call :: after)
    (hcommand : call.command? = some command) :
    ∃ program, (before.filterMap Call.sought?).getLast? = some binary
      ∧ h.programs.lookup binary = some program
      ∧ command.head? = some program := by
  obtain ⟨hfirst, hconcerns⟩ := hguided
  subst hcalls
  rcases hconcerns call (by simp) with rfl | ⟨program, arguments, hprogram, hrun⟩
  · contradiction
  · obtain rfl := Option.some.inj (hcommand.symm.trans hrun)
    refine ⟨program, ?_, hprogram, rfl⟩
    have hall : ∀ name ∈ before.filterMap Call.sought?, name = binary := by
      intro name hname
      obtain ⟨earlier, hearlier, hsought⟩ := List.mem_filterMap.1 hname
      rcases hconcerns earlier (by simp [hearlier]) with rfl | ⟨_, _, -, hother⟩
      · exact (Option.some.inj hsought).symm
      · cases earlier <;> contradiction
    cases before with
    | nil =>
        obtain rfl := hfirst call rfl
        contradiction
    | cons first before =>
        obtain rfl := hfirst first rfl
        rw [List.eq_replicate_of_mem hall, List.getLast?_replicate, if_neg (by simp [Call.sought?])]

theorem concerns_relocations
    {h : Host} {program : String} {call : Call}
    (hcall : call ∈ Engine.relocations binary program) :
    Concerns binary h call := by
  unfold Engine.relocations at hcall
  split at hcall
  · exact .inl (List.mem_singleton.1 hcall)
  · contradiction

theorem Check.concerns_calls
    {h : Host} {program : String} {call : Call} (c : Check)
    (hprogram : h.programs.lookup binary = some program)
    (hcall : call ∈ c.calls binary h) :
    Concerns binary h call := by
  cases c with
  | program =>
      exact .inl (List.mem_singleton.1 hcall)
  | superuser =>
      contradiction
  | baseline =>
      contradiction
  | enabled =>
      simp only [Check.calls, hprogram, Option.getD_some] at hcall
      rcases List.mem_append.1 hcall with hcall | hcall
      · exact concerns_relocations hcall
      · obtain rfl := List.mem_singleton.1 hcall
        exact .inr ⟨program, _, hprogram, rfl⟩

/-- The first check looks for the control program, and where there is no program it is the last one. -/
theorem guided_of_stop
    {h : Host} {earlier later : List Check} {c : Check}
    (hall : Check.all = earlier ++ c :: later)
    (hholds : ∀ d ∈ earlier, d.verdict binary p h = .ok true) :
    Guided binary h ((earlier ++ [c]).flatMap (Check.calls binary h)) := by
  cases earlier with
  | nil =>
      obtain rfl : Check.program = c := by
        simpa [Check.all] using congrArg List.head? hall
      refine ⟨fun call hcall => (Option.some.inj hcall).symm, fun call hcall => .inl ?_⟩
      simpa [Check.calls] using hcall
  | cons d earlier =>
      obtain rfl : Check.program = d := by
        simpa [Check.all] using congrArg List.head? hall
      obtain ⟨program, hprogram⟩ : ∃ program, h.programs.lookup binary = some program := by
        simpa [Check.verdict, Option.isSome_iff_exists] using hholds .program List.mem_cons_self
      refine ⟨fun call hcall => (Option.some.inj hcall).symm, fun call hcall => ?_⟩
      obtain ⟨e, -, hcall⟩ := List.mem_flatMap.1 hcall
      exact e.concerns_calls hprogram hcall

theorem guided_clearing
    {h : Host} {program : String}
    (hprogram : h.programs.lookup binary = some program) :
    Guided binary h (clearing binary h) := by
  refine ⟨fun call hcall => (Option.some.inj hcall).symm, fun call hcall => ?_⟩
  obtain ⟨c, -, hcall⟩ := List.mem_flatMap.1 hcall
  exact c.concerns_calls hprogram hcall

theorem guided_loading
    {h : Host} {program file : String} {text : Option String}
    (hprogram : h.programs.lookup binary = some program) :
    Guided binary h (clearing binary h ++ loading binary program file text) := by
  obtain ⟨hfirst, hclearing⟩ := guided_clearing hprogram
  refine ⟨hfirst, fun call hcall => ?_⟩
  rcases List.mem_append.1 hcall with hcall | hcall
  · exact hclearing call hcall
  · rcases List.mem_append.1 hcall with hcall | hcall
    · exact concerns_relocations hcall
    · obtain rfl := List.mem_singleton.1 hcall
      exact .inr ⟨program, _, hprogram, rfl⟩

theorem EnableCourse.guided
    {s t : Standing} {o : Except Failure State} {calls : List Call}
    (h : EnableCourse binary p s o t calls) :
    Guided binary s.host calls := by
  cases h with
  | stopped hall hholds hstop =>
      exact guided_of_stop hall hholds
  | uncreated hcleared hcreate =>
      obtain ⟨program, hprogram⟩ := hcleared.lookup
      exact guided_clearing hprogram
  | unwritten hcleared hcreate hwrite =>
      obtain ⟨program, hprogram⟩ := hcleared.lookup
      exact guided_clearing hprogram
  | loaded hcleared hprogram hcreate hwrite =>
      exact guided_loading hprogram

/-- An operation runs nothing but the control program, from where it has found it. -/
theorem Step.guided
    {s : Step}
    (hs : s.IsOperation) (m : Machine) :
    Guided binary m.host ((s.run binary).observe m).1.journal.calls := by
  have hseen : ∀ {o t calls}, Runs (s.run binary) m.standing o t (Journal.ofCalls calls) →
      Guided binary m.host calls →
      Guided binary m.host ((s.run binary).observe m).1.journal.calls := by
    intro o t calls hrun hguided
    obtain ⟨-, hcalls, -, -⟩ := @seenAfter_of_runs binary m [] s o t calls hrun
    exact (show ((s.run binary).observe m).1.journal.calls = calls from hcalls) ▸ hguided
  cases s with
  | enable p =>
      obtain ⟨o, t, calls, hcourse⟩ := exists_enableCourse binary p m.standing
      exact hseen hcourse.runs.map hcourse.guided
  | disable p =>
      rcases cleared_or_stop binary p m.host with
        hcleared | ⟨earlier, c, later, f, hall, hholds, hstop⟩
      · obtain ⟨program, hprogram⟩ := hcleared.lookup
        exact hseen (disable_runs_of_load (s := m.standing) hcleared hprogram).map
          (guided_loading hprogram)
      · exact hseen (disable_runs_of_stop (s := m.standing) hall hholds hstop).map
          (guided_of_stop hall hholds)
  | rules p =>
      have hrun : Runs ((Step.rules p).run binary) m.standing _ m.standing (Journal.ofCalls []) := .pure _
      exact hseen hrun ⟨by simp, by simp⟩
  | probe =>
      cases hprogram : m.host.programs.lookup binary with
      | none =>
          refine hseen (probe_runs_of_none (s := m.standing) hprogram).map
            ⟨by simp, fun call hcall => .inl ?_⟩
          simpa using hcall
      | some program =>
          refine hseen (probe_runs_of_some (s := m.standing) hprogram).map
            ⟨by simp, fun call hcall => ?_⟩
          rcases List.mem_cons.1 hcall with rfl | hcall
          · exact .inl rfl
          · exact Check.concerns_calls .enabled hprogram hcall
  | isEnabled =>
      contradiction
  | locate =>
      contradiction
  | status =>
      contradiction
  | load file =>
      contradiction

/-! ## Operations in a session -/

/-- Putting the lock on, taking it off, printing its rules and asking about the filter depend on the world
only: on the host, and on the number of the next scratch file. What is remembered of the control program
makes no difference to what is seen of such a step, which is its outcome, its journal and the scratch files
that it leaves, nor to the host after it. All that it runs is the program that it has looked for last, from
where that was found. So what is seen of it at any place of a session is what is seen of it on a machine
with the same world whose engine has not been used. -/
theorem operation_depends_on_world
    (binary : String) {s : Step}
    (hs : s.IsOperation) :
    (∀ (m : Machine) (found found' : Option String),
        let one := (s.run binary).observe { m with located := found }
        let other := (s.run binary).observe { m with located := found' }
        one.1 = other.1 ∧ one.2.host = other.2.host)
      ∧ (∀ (m : Machine) (before after : List Call) (call : Call) (command : List String),
          ((s.run binary).observe m).1.journal.calls = before ++ call :: after →
          call.command? = some command →
          ∃ sought program, (before.filterMap Call.sought?).getLast? = some sought
            ∧ answer (locateProgram sought) m.host = .ok (some program)
            ∧ command.head? = some program)
      ∧ ∀ (m : Machine) (before after : List Move),
          let now := (s.run binary).observe (reached binary m before).renewed
          play binary m (before ++ .step s :: after)
              = play binary m before ++ now.1 :: play binary (reached binary m (before ++ [.step s])) after
            ∧ (reached binary m (before ++ [.step s])).host = now.2.host := by
  refine ⟨?_, ?_, ?_⟩
  · intro m found found' one other
    obtain ⟨hone, honeHost⟩ := Step.observe_eq binary hs m found
    obtain ⟨hother, hotherHost⟩ := Step.observe_eq binary hs m found'
    exact ⟨hone.trans hother.symm, honeHost.trans hotherHost.symm⟩
  · intro m before after call command hcalls hcommand
    obtain ⟨program, hlast, hprogram, hhead⟩ := (Step.guided hs m).run hcalls hcommand
    exact ⟨binary, program, hlast, congrArg Except.ok hprogram, hhead⟩
  · intro m before after now
    obtain ⟨hseen, hhost⟩ := Step.observe_eq binary hs (reached binary m before) none
    refine ⟨?_, ?_⟩
    · rw [play_append_step]
      exact congrArg (fun seen => play binary m before ++ seen :: _) hseen.symm
    · rw [reached_append]
      exact hhost.symm

/-- Putting the lock on is seen alike where a path that is stale is remembered and where none is. -/
theorem staleProgram_not_run :
    (((Step.enable strictPolicy).run "pfctl").observe
        { Machine.ofHost obligingHost with located := some "/old/pfctl" }).1
      = (((Step.enable strictPolicy).run "pfctl").observe (.ofHost obligingHost)).1 :=
  ((operation_depends_on_world "pfctl" (s := .enable strictPolicy) trivial).1 (.ofHost obligingHost)
    (some "/old/pfctl") none).1

end Lock
end Killswitch
