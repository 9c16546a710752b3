import Killswitch.Proofs.Action.Run

/-!
# Actions that only ask the host

Most actions change nothing but the journal, and do not look at anything but the host. What such an
action answers and what it enters into the journal are functions of the host.

**Results.**
* `Action.answer`, `Action.entries`: what an action answers on a host, and what it enters;
* `Action.Consults`: an action only asks the host, and all its entries are of an allowed kind;
* `Consults.bind`, `Consults.foldlM`, `Consults.mapM`: composed actions;
* `answer_bind`, `entries_bind`: answers and entries of composed actions;
* `Consults.runs`: such an action leaves the standing of a machine as it is;
* `SameOn`, `SameOn.run`: an action that answers and enters the same on two hosts;
* `Ends`, `Ends.bind_consults`: the last entries of a run, which are those of an action that only asks.
-/

namespace Killswitch
namespace Action

variable {α β γ : Type}

/-- What an action answers on a host on which nothing has been done. -/
def answer (a : Action α) (h : Host) : Except Failure α :=
  (a (.ofHost h)).1

/-- What an action enters into the journal on a host on which nothing has been done. -/
def entries (a : Action α) (h : Host) : Journal :=
  (a (.ofHost h)).2.journal

/-- The answer of an action is the outcome of its run. -/
theorem Runs.answer_eq
    {a : Action α} {h : Host} {o : Except Failure α} {t : Standing} {d : Journal}
    (hrun : Runs a ⟨h, 0, none⟩ o t d) :
    answer a h = o := by
  obtain ⟨k, hend, -⟩ := hrun []
  exact congrArg Prod.fst hend

/-- An action only asks the host, and all its entries are allowed. -/
structure Consults (allowed : Event → Prop) (a : Action α) : Prop where
  run : ∀ m : Machine,
    a m = (answer a m.host, { m with journal := m.journal ++ entries a m.host })
  entries_allowed : ∀ (h : Host), ∀ e ∈ entries a h, allowed e

variable {allowed : Event → Prop}

/-- An action whose answer and entries are given as functions of the host. -/
theorem Consults.of
    {a : Action α} (o : Host → Except Failure α) (j : Host → Journal)
    (hrun : ∀ m : Machine, a m = (o m.host, { m with journal := m.journal ++ j m.host }))
    (hj : ∀ (h : Host), ∀ e ∈ j h, allowed e) :
    Consults allowed a := by
  have hanswer : answer a = o := by
    funext h
    simp [answer, hrun, Machine.ofHost]
  have hentries : entries a = j := by
    funext h
    simp [entries, hrun, Machine.ofHost]
  refine ⟨?_, ?_⟩
  · intro m
    rw [hanswer, hentries]
    exact hrun m
  · rw [hentries]
    exact hj

theorem Consults.mono
    {more : Event → Prop} {a : Action α}
    (ha : Consults allowed a) (hmore : ∀ e, allowed e → more e) :
    Consults more a :=
  ⟨ha.run, fun h e he => hmore e (ha.entries_allowed h e he)⟩

/-! ## Answers and entries of composed actions -/

@[simp] theorem answer_pure
    (x : α) (h : Host) :
    answer (pure x) h = .ok x := by
  rfl

@[simp] theorem answer_throw
    (e : Failure) (h : Host) :
    answer (throw e : Action α) h = .error e := by
  rfl

@[simp] theorem ok_bind
    (x : α) (f : α → Except Failure β) :
    ((.ok x : Except Failure α) >>= f) = f x := by
  rfl

@[simp] theorem error_bind
    (e : Failure) (f : α → Except Failure β) :
    ((.error e : Except Failure α) >>= f) = .error e := by
  rfl

/-- A composed action on a host: the second one runs on a machine on which nothing has been done but what
the first one has entered. -/
theorem bind_ofHost
    {a : Action α} {f : α → Action β}
    (ha : Consults allowed a) (hf : ∀ x, Consults allowed (f x)) (h : Host) :
    (a >>= f) (.ofHost h) =
      match answer a h with
      | .ok x =>
          (answer (f x) h, ⟨h, 0, none, entries a h ++ entries (f x) h⟩)
      | .error e => (.error e, ⟨h, 0, none, entries a h⟩) := by
  rw [bind_run, ha.run (.ofHost h)]
  simp only [Machine.ofHost, List.nil_append]
  cases answer a h with
  | error e =>
      rfl
  | ok x =>
      exact (hf x).run _

/-- An action that only asks the host answers the same after another one, whatever that one has entered. -/
theorem answer_bind
    {a : Action α} {f : α → Action β}
    (ha : Consults allowed a) (hf : ∀ x, Consults allowed (f x)) (h : Host) :
    answer (a >>= f) h = answer a h >>= fun x => answer (f x) h := by
  rw [answer, bind_ofHost ha hf]
  cases answer a h <;> rfl

/-- The entries of a composed action: those of the first one, and of the second one if there is one. -/
theorem entries_bind
    {a : Action α} {f : α → Action β}
    (ha : Consults allowed a) (hf : ∀ x, Consults allowed (f x)) (h : Host) :
    entries (a >>= f) h = entries a h ++
      match answer a h with
      | .ok x => entries (f x) h
      | .error _ => [] := by
  rw [entries, bind_ofHost ha hf]
  cases answer a h <;> simp

namespace Consults

theorem bind
    {a : Action α} {f : α → Action β}
    (ha : Consults allowed a) (hf : ∀ x, Consults allowed (f x)) :
    Consults allowed (a >>= f) := by
  refine ⟨?_, ?_⟩
  · intro m
    rw [answer_bind ha hf, entries_bind ha hf, bind_run, ha.run m]
    cases answer a m.host with
    | error e =>
        simp
    | ok x =>
        simp [(hf x).run]
  · intro h e he
    rw [entries_bind ha hf] at he
    rcases List.mem_append.1 he with he | he
    · exact ha.entries_allowed h e he
    · cases hx : answer a h with
      | error f =>
          simp [hx] at he
      | ok x =>
          rw [hx] at he
          exact (hf x).entries_allowed h e he

theorem pure (x : α) :
    Consults allowed (Pure.pure x : Action α) :=
  .of (fun _ => .ok x) (fun _ => []) (by simp) (by simp)

theorem throw (f : Failure) :
    Consults allowed (MonadExcept.throw f : Action α) :=
  .of (fun _ => .error f) (fun _ => []) (by simp) (by simp)

theorem host :
    Consults allowed Action.host :=
  .of (fun h => .ok h) (fun _ => []) (by simp) (by simp)

theorem ofOutcome (o : Except Failure α) :
    Consults allowed (Action.ofOutcome o) :=
  .of (fun _ => o) (fun _ => []) (by simp) (by simp)

theorem enter
    {e : Event} (he : allowed e) :
    Consults allowed (Action.enter e) :=
  .of (fun _ => .ok ()) (fun _ => [e]) (by simp) (by simp [he])

theorem map
    {a : Action α} (f : α → β)
    (ha : Consults allowed a) :
    Consults allowed (f <$> a) := by
  rw [← bind_pure_comp]
  exact ha.bind (fun x => .pure (f x))

/-- An action for every item of a list, each with the result of the one before. -/
theorem foldlM
    {f : β → α → Action β}
    (hf : ∀ x y, Consults allowed (f x y)) (x : β) (items : List α) :
    Consults allowed (items.foldlM f x) := by
  induction items generalizing x with
  | nil =>
      exact .pure x
  | cons y items ih =>
      rw [List.foldlM_cons]
      exact (hf x y).bind ih

theorem mapM
    {f : α → Action β}
    (hf : ∀ x, Consults allowed (f x)) (items : List α) :
    Consults allowed (items.mapM f) := by
  induction items with
  | nil =>
      exact .pure []
  | cons y items ih =>
      rw [List.mapM_cons]
      exact (hf y).bind (fun z => ih.bind (fun zs => .pure (z :: zs)))

/-- A loop whose steps do not end it. -/
theorem forIn
    {f : α → Action PUnit}
    (hf : ∀ x, Consults allowed (f x)) (items : List α) :
    Consults allowed (ForIn.forIn items PUnit.unit
      (fun x _ => f x >>= fun _ => Pure.pure (ForInStep.yield PUnit.unit))) := by
  induction items with
  | nil =>
      exact .pure _
  | cons y items ih =>
      rw [List.forIn_cons]
      exact ((hf y).bind (fun _ => .pure _)).bind (fun step => by
        cases step with
        | done _ => exact .pure _
        | yield _ => exact ih)

/-- An action that only asks the host leaves every standing as it is. -/
theorem runs
    {a : Action α}
    (ha : Consults allowed a) (s : Standing) :
    Runs a s (answer a s.host) s (entries a s.host).deeds := by
  intro j
  exact ⟨entries a s.host, ha.run _, rfl⟩

end Consults

/-! ## Two hosts -/

/-- On two hosts an action answers the same and enters the same. -/
structure SameOn (h h' : Host) (a : Action α) : Prop where
  answer_eq : answer a h = answer a h'
  entries_eq : entries a h = entries a h'

namespace SameOn

variable {h h' : Host} {a : Action α}

theorem pure (x : α) :
    SameOn h h' (Pure.pure x : Action α) :=
  ⟨rfl, rfl⟩

theorem bind
    {f : α → Action β}
    (ha : Consults allowed a) (hf : ∀ x, Consults allowed (f x))
    (hsame : SameOn h h' a) (hrest : ∀ x, SameOn h h' (f x)) :
    SameOn h h' (a >>= f) where
  answer_eq := by
    rw [answer_bind ha hf, answer_bind ha hf, hsame.answer_eq]
    exact bind_congr (fun x => (hrest x).answer_eq)
  entries_eq := by
    rw [entries_bind ha hf, entries_bind ha hf, hsame.answer_eq, hsame.entries_eq]
    cases answer a h' with
    | error e =>
        rfl
    | ok x =>
        exact congrArg _ (hrest x).entries_eq

theorem map
    (f : α → β)
    (ha : Consults allowed a) (hsame : SameOn h h' a) :
    SameOn h h' (f <$> a) := by
  rw [← bind_pure_comp]
  exact hsame.bind ha (fun _ => .pure _) (fun x => .pure (f x))

theorem mapM
    {f : α → Action β} {items : List α}
    (hf : ∀ x, Consults allowed (f x)) (hsame : ∀ x ∈ items, SameOn h h' (f x)) :
    SameOn h h' (items.mapM f) := by
  induction items with
  | nil =>
      exact .pure []
  | cons x items ih =>
      obtain ⟨hx, hitems⟩ := List.forall_mem_cons.1 hsame
      have hall : Consults allowed (items.mapM f) := Consults.mapM hf items
      rw [List.mapM_cons]
      exact hx.bind (hf x) (fun y => hall.bind (fun ys => .pure (y :: ys)))
        (fun y => (ih hitems).bind hall (fun ys => .pure (y :: ys)) (fun ys => .pure (y :: ys)))

/-- Machines with the two hosts come to the same outcome, and the same is added to their journals. -/
theorem run
    {m m' : Machine}
    (ha : Consults allowed a) (hsame : SameOn m.host m'.host a) :
    ∃ outcome entered, a m = (outcome, { m with journal := m.journal ++ entered })
      ∧ a m' = (outcome, { m' with journal := m'.journal ++ entered }) :=
  ⟨answer a m.host, entries a m.host, ha.run m, by
    rw [hsame.answer_eq, hsame.entries_eq]
    exact ha.run m'⟩

end SameOn

/-! ## The end of a run -/

section Ending

variable {a : Action α} {s t : Standing} {o : Except Failure α} {d last : Journal}

/-- From a standing, an action ends with an outcome, and the given entries are the last ones of its
journal. -/
def Ends (a : Action α) (s : Standing) (o : Except Failure α) (last : Journal) : Prop :=
  ∃ t : Standing, ∀ j : Journal, ∃ k : Journal, a (s.machine j) = (o, t.machine (j ++ k ++ last))

theorem Runs.ends
    (ha : Runs a s o t d) :
    Ends a s o [] := by
  refine ⟨t, fun j => ?_⟩
  obtain ⟨k, hrun, -⟩ := ha j
  exact ⟨k, by rw [hrun, List.append_nil]⟩

namespace Ends

/-- The end of an action that runs like another one. -/
theorem of_eq
    {b : Action α}
    (hb : Ends b s o last) (heq : ∀ j : Journal, a (s.machine j) = b (s.machine j)) :
    Ends a s o last := by
  obtain ⟨t, hb⟩ := hb
  exact ⟨t, fun j => (hb j).imp (fun k hrun => (heq j).trans hrun)⟩

theorem attempt
    (ha : Ends a s o last) :
    Ends (Action.attempt a) s (.ok o) last := by
  obtain ⟨t, ha⟩ := ha
  refine ⟨t, fun j => ?_⟩
  obtain ⟨k, hrun⟩ := ha j
  exact ⟨k, by rw [attempt_run, hrun]⟩

theorem of_runs_bind
    {f : α → Action β} {x : α} {o : Except Failure β}
    (ha : Runs a s (.ok x) t d)
    (hf : Ends (f x) t o last) :
    Ends (a >>= f) s o last := by
  obtain ⟨u, hf⟩ := hf
  refine ⟨u, fun j => ?_⟩
  obtain ⟨k, hrun, -⟩ := ha j
  obtain ⟨l, hrun'⟩ := hf (j ++ k)
  exact ⟨k ++ l, by rw [bind_run, hrun, ← List.append_assoc]; exact hrun'⟩

/-- An action that only asks the host adds its own entries at the end. -/
theorem bind_consults
    {allowed : Event → Prop} {f : α → Action β} {x : α}
    (ha : Ends a s (.ok x) last)
    (hf : Consults allowed (f x)) :
    ∃ h, Ends (a >>= f) s (answer (f x) h) (last ++ entries (f x) h) := by
  obtain ⟨t, ha⟩ := ha
  refine ⟨t.host, t, fun j => ?_⟩
  obtain ⟨k, hrun⟩ := ha j
  refine ⟨k, ?_⟩
  rw [bind_run, hrun]
  dsimp only
  rw [hf.run, ← List.append_assoc]
  rfl

theorem answer_eq
    {h : Host}
    (ha : Ends a ⟨h, 0, none⟩ o last) :
    answer a h = o := by
  obtain ⟨t, ha⟩ := ha
  obtain ⟨k, hrun⟩ := ha []
  exact congrArg Prod.fst hrun

/-- What an observer sees of the end of a run. -/
theorem observe_eq
    {m : Machine}
    (ha : Ends a m.standing o last) :
    (a.observe m).1.outcome = o ∧ ∃ before, (a.observe m).1.journal = before ++ last := by
  obtain ⟨t, ha⟩ := ha
  obtain ⟨k, hrun⟩ := ha []
  have hseen : a.observe m = (⟨o, k ++ last, t.host.scratchFiles⟩, t.machine (k ++ last)) := by
    simp only [Action.observe, show ({ m with journal := [] } : Machine) = m.standing.machine [] from rfl,
      hrun, List.nil_append]
    rfl
  rw [hseen]
  exact ⟨rfl, k, rfl⟩

end Ends
end Ending

end Action
end Killswitch
