import Killswitch.Lock.Session

/-!
# How actions run

An action takes a machine to an outcome and another machine. No action looks into the journal, which
only grows. So a run is told by the rest of the machine, which is its *standing*, and by its *deeds*:
the entries that count outside of the program, which are requests and results. Remarks and notices are
left open, and so are removals of scratch files, which show in the files of the host.

**Results.**
* `map_eq_ok_iff`, `bind_eq_ok_iff`, `toOption_eq_some_iff`: outcomes that are no failures;
* `bind_run`, `map_run`: composed actions on a machine;
* `Action.Runs`: the run of an action from one standing to another, with its deeds;
* `Runs.bind`, `Runs.bind_error`: runs of composed actions, where a failure ends the run;
* `Runs.observe_eq`: what an observer sees of a run.
-/

namespace Killswitch

namespace Event

/-- Whether an entry counts outside of the program. -/
def isDeed : Event → Bool
  | .call _ => true
  | .output _ => true
  | _ => false

end Event

namespace Journal

/-- The entries that count outside of the program. -/
def deeds (j : Journal) : Journal :=
  j.filter Event.isDeed

@[simp] theorem deeds_append
    (j k : Journal) :
    deeds (j ++ k) = deeds j ++ deeds k := by
  simp [deeds]

theorem calls_deeds
    (j : Journal) :
    calls (deeds j) = calls j := by
  induction j with
  | nil =>
      rfl
  | cons e j ih =>
      cases e <;> simpa [deeds, calls, List.filter_cons, Event.isDeed] using ih

theorem output_append
    (j k : Journal) :
    output (j ++ k) = output j ++ output k := by
  simp [output]

theorem output_cons
    (e : Event) (j : Journal) :
    output (e :: j) = output [e] ++ output j := by
  exact output_append [e] j

theorem output_singleton
    (text : String) :
    output [.output text] = text := by
  exact String.empty_append

theorem output_deeds
    (j : Journal) :
    output (deeds j) = output j := by
  induction j with
  | nil =>
      rfl
  | cons e j ih =>
      rw [output_cons, ← ih]
      cases e with
      | call c =>
          exact output_cons _ _
      | remark r =>
          simp [deeds, Event.isDeed, output]
      | notice text =>
          simp [deeds, Event.isDeed, output]
      | output text =>
          exact output_cons _ _
      | removal path =>
          simp [deeds, Event.isDeed, output]

/-- Requests as deeds. -/
def ofCalls (calls : List Call) : Journal :=
  calls.map .call

theorem ofCalls_append
    (c d : List Call) :
    ofCalls (c ++ d) = ofCalls c ++ ofCalls d := by
  simp [ofCalls]

@[simp] theorem calls_ofCalls
    (c : List Call) :
    calls (ofCalls c) = c := by
  induction c with
  | nil =>
      rfl
  | cons a c ih =>
      exact congrArg (a :: ·) ih

@[simp] theorem output_ofCalls
    (c : List Call) :
    output (ofCalls c) = "" := by
  induction c with
  | nil =>
      rfl
  | cons a c ih =>
      have h : output (ofCalls (a :: c)) = output [.call a] ++ output (ofCalls c) :=
        output_cons _ _
      rw [h, ih]
      rfl

end Journal

/-! ## Composed outcomes and actions -/

namespace Action

variable {α β : Type}

theorem map_eq_ok_iff
    {ε α β : Type} {f : α → β} {x : Except ε α} {r : β} :
    f <$> x = .ok r ↔ ∃ a, x = .ok a ∧ f a = r := by
  cases x <;> simp [Functor.map, Except.map]

theorem bind_eq_ok_iff
    {ε α β : Type} {f : α → Except ε β} {x : Except ε α} {r : β} :
    (x >>= f) = .ok r ↔ ∃ a, x = .ok a ∧ f a = .ok r := by
  cases x <;> simp [bind, Except.bind]

/-- What an outcome gives can be decided, although failures cannot be compared. -/
theorem toOption_eq_some_iff
    {ε α : Type} {x : Except ε α} {r : α} :
    x.toOption = some r ↔ x = .ok r := by
  cases x <;> simp [Except.toOption]

@[simp] theorem bind_run
    (a : Action α) (f : α → Action β) (m : Machine) :
    (a >>= f) m =
      match a m with
      | (.ok x, m') => f x m'
      | (.error e, m') => (.error e, m') := by
  simp only [bind, ExceptT.bind, ExceptT.mk, StateT.bind]
  rcases a m with ⟨_ | _, _⟩ <;> rfl

@[simp] theorem map_run
    (f : α → β) (a : Action α) (m : Machine) :
    (f <$> a) m = ((a m).1.map f, (a m).2) := by
  simp only [Functor.map, ExceptT.map, ExceptT.mk, bind, StateT.bind]
  rcases a m with ⟨_ | _, _⟩ <;> rfl

@[simp] theorem pure_run
    (x : α) (m : Machine) :
    (pure x : Action α) m = (.ok x, m) := by
  rfl

@[simp] theorem throw_run
    (e : Failure) (m : Machine) :
    (throw e : Action α) m = (.error e, m) := by
  rfl

theorem ite_bind
    (c : Prop) [Decidable c] (a b : Action α) (f : α → Action β) :
    (if c then a else b) >>= f = if c then a >>= f else b >>= f := by
  split <;> rfl

theorem throw_bind
    (e : Failure) (f : α → Action β) :
    (throw e : Action α) >>= f = throw e := by
  rfl

theorem host_bind_run
    (f : Host → Action β) (m : Machine) :
    (host >>= f) m = f m.host m := by
  rfl

end Action

/-! ## Runs -/

/-- What a machine is besides its journal. -/
structure Standing where
  host : Host
  scratchFiles : Nat
  located : Option String

/-- The standing of a machine. -/
def Machine.standing (m : Machine) : Standing :=
  ⟨m.host, m.scratchFiles, m.located⟩

/-- A machine of a standing with a journal. -/
def Standing.machine (s : Standing) (j : Journal) : Machine :=
  ⟨s.host, s.scratchFiles, s.located, j⟩

namespace Action

variable {α β : Type}

/-- From a standing, whatever the journal holds, an action ends with an outcome at another standing, and
has done `deeds`. -/
def Runs (a : Action α) (s : Standing) (outcome : Except Failure α) (after : Standing)
    (deeds : Journal) : Prop :=
  ∀ j : Journal, ∃ k : Journal,
    a (s.machine j) = (outcome, after.machine (j ++ k)) ∧ k.deeds = deeds

namespace Runs

variable {s t u : Standing} {d e : Journal}

/-- A run whose outcome and deeds are given in another form. -/
theorem of_eq
    {a : Action α} {o o' : Except Failure α}
    (h : Runs a s o t d) (ho : o = o') (hd : d = e) :
    Runs a s o' t e :=
  ho ▸ hd ▸ h

theorem pure (x : α) :
    Runs (Pure.pure x) s (.ok x) s [] := by
  intro j
  exact ⟨[], by simp, rfl⟩

theorem throw (f : Failure) :
    Runs (MonadExcept.throw f : Action α) s (.error f) s [] := by
  intro j
  exact ⟨[], by simp, rfl⟩

theorem ofOutcome (outcome : Except Failure α) :
    Runs (Action.ofOutcome outcome) s outcome s [] := by
  intro j
  exact ⟨[], by simp, rfl⟩

theorem host :
    Runs Action.host s (.ok s.host) s [] := by
  intro j
  exact ⟨[], by simp [Standing.machine], rfl⟩

theorem enter (e : Event) :
    Runs (Action.enter e) s (.ok ()) s (Journal.deeds [e]) := by
  intro j
  exact ⟨[e], rfl, rfl⟩

theorem remark (level : Level) (origin text : String) :
    Runs (Action.remark level origin text) s (.ok ()) s [] :=
  enter _

theorem notice (text : String) :
    Runs (Action.notice text) s (.ok ()) s [] :=
  enter _

theorem write (text : String) :
    Runs (Action.write text) s (.ok ()) s [.output text] :=
  enter _

/-- Runs follow each other, and so do their deeds. -/
theorem bind
    {a : Action α} {f : α → Action β} {x : α} {o : Except Failure β}
    (ha : Runs a s (.ok x) t d)
    (hf : Runs (f x) t o u e) :
    Runs (a >>= f) s o u (d ++ e) := by
  intro j
  obtain ⟨k, hrun, hk⟩ := ha j
  obtain ⟨l, hrun', hl⟩ := hf (j ++ k)
  refine ⟨k ++ l, ?_, ?_⟩
  · rw [bind_run, hrun]
    simpa using hrun'
  · simp [hk, hl]

/-- A failure ends a run. -/
theorem bind_error
    {a : Action α} {f : α → Action β} {e : Failure}
    (ha : Runs a s (.error e) t d) :
    Runs (a >>= f) s (.error e) t d := by
  intro j
  obtain ⟨k, hrun, hk⟩ := ha j
  exact ⟨k, by rw [bind_run, hrun], hk⟩

theorem map
    {a : Action α} {f : α → β} {o : Except Failure α}
    (ha : Runs a s o t d) :
    Runs (f <$> a) s (o.map f) t d := by
  intro j
  obtain ⟨k, hrun, hk⟩ := ha j
  exact ⟨k, by rw [map_run, hrun], hk⟩

theorem attempt
    {a : Action α} {o : Except Failure α}
    (ha : Runs a s o t d) :
    Runs (Action.attempt a) s (.ok o) t d := by
  intro j
  obtain ⟨k, hrun, hk⟩ := ha j
  exact ⟨k, by rw [attempt_run, hrun], hk⟩

/-- What an observer sees of a run, and where it leaves the machine. -/
theorem observe_eq
    {a : Action α} {o : Except Failure α} {m : Machine}
    (h : Runs a m.standing o t d) :
    (a.observe m).1.outcome = o
      ∧ (a.observe m).1.journal.deeds = d
      ∧ (a.observe m).1.scratchFiles = t.host.scratchFiles
      ∧ (a.observe m).2.standing = t := by
  obtain ⟨k, hrun, hk⟩ := h []
  have hstart : ({ m with journal := [] } : Machine) = m.standing.machine [] := by
    rfl
  have hseen : a.observe m = (⟨o, k, t.host.scratchFiles⟩, t.machine k) := by
    simp only [Action.observe, hstart, hrun]
    rfl
  rw [hseen]
  exact ⟨rfl, hk, rfl, rfl⟩

end Runs
end Action

end Killswitch
