import Killswitch.Proofs.Lock.Check

/-!
# What questions leave as it is

A question about the filter looks for the control program and asks it for a report. It changes nothing of
a machine but what is remembered of the program, and it enters nothing into the journal but remarks that
warn of nothing and requests that load nothing. So a view of the machine that sees none of these is the same
after the question, whatever was remembered before. The checks in front of both operations are questions too,
and so is a load for a view that does not see it.

**Results.**
* `Keeps`: an action leaves what is seen through a view as it is;
* `Unconcerned`: a view that questions do not change;
* `Engine.path_keeps`, `Engine.status_keeps`, `Lock.isEnabled_keeps`, `Lock.probe_keeps`: the questions;
* `Engine.load_keeps`, `Lock.check_keeps`: loads and checks.
-/

namespace Killswitch

namespace Action

variable {α β γ : Type}

/-- An action leaves what is seen of a machine through a view as it is. -/
def Keeps (view : Machine → γ) (a : Action α) : Prop :=
  ∀ m : Machine, view (a m).2 = view m

namespace Keeps

variable {view : Machine → γ}

theorem pure (x : α) :
    Keeps view (Pure.pure x : Action α) := by
  intro m
  rfl

theorem throw (f : Failure) :
    Keeps view (MonadExcept.throw f : Action α) := by
  intro m
  rfl

theorem host :
    Keeps view Action.host := by
  intro m
  rfl

theorem ofOutcome (o : Except Failure α) :
    Keeps view (Action.ofOutcome o) := by
  intro m
  rfl

theorem bind
    {a : Action α} {f : α → Action β}
    (ha : Keeps view a) (hf : ∀ x, Keeps view (f x)) :
    Keeps view (a >>= f) := by
  intro m
  have hm := ha m
  rw [bind_run]
  rcases hrun : a m with ⟨e | x, m'⟩
  · rwa [hrun] at hm
  · rw [hrun] at hm
    exact (hf x m').trans hm

theorem map
    {a : Action α} (f : α → β)
    (ha : Keeps view a) :
    Keeps view (f <$> a) := by
  intro m
  rw [map_run]
  exact ha m

theorem forM
    {f : α → Action PUnit}
    (hf : ∀ x, Keeps view (f x)) (items : List α) :
    Keeps view (items.forM f) := by
  induction items with
  | nil =>
      exact .pure _
  | cons x items ih =>
      exact (hf x).bind (fun _ => ih)

end Keeps

/-- A view sees nothing of what is remembered of the control program, and of the journal neither requests that
load nothing nor remarks that warn of nothing. -/
structure Unconcerned (view : Machine → γ) : Prop where
  located (m : Machine) (found : Option String) :
    view { m with located := found } = view m
  remark (m : Machine) (r : Record) (hr : r.level ≠ .warning) :
    view { m with journal := m.journal ++ [.remark r] } = view m
  locate (m : Machine) (binary : String) :
    view { m with journal := m.journal ++ [.call (.locate binary)] } = view m
  run (m : Machine) (arguments : List String) (limit : Option Nat) :
    view { m with journal := m.journal ++ [.call (.run arguments limit)] } = view m

end Action

open Killswitch.Action

variable {γ : Type} {view : Machine → γ}

namespace Engine

theorem locate_keeps
    (hview : Unconcerned view) (binary : String) :
    Keeps view (locate binary) := by
  intro m
  -- the request, what is remembered, and the remark about it, the last one first
  exact (hview.remark _ _ (by simp)).trans ((hview.located _ _).trans (hview.locate m binary))

theorem path_keeps
    (hview : Unconcerned view) (binary : String) :
    Keeps view (path binary) := by
  have hremembered : ∀ located, Keeps view (remembered binary located) := by
    intro located
    unfold remembered
    split
    · exact locate_keeps hview binary
    · exact .pure _
  have hgiven : ∀ found, Keeps view (given binary found) := by
    intro found
    cases found with
    | none =>
        exact .throw _
    | some path =>
        exact .pure _
  rw [path_eq]
  exact Keeps.bind (a := get) (fun _ => rfl) (fun m => (hremembered m.located).bind hgiven)

theorem execute_keeps
    (hview : Unconcerned view) {a : Action Run} (path : String) (command : List String) (limit : String)
    (ha : Keeps view a) :
    Keeps view (execute path command limit a) :=
  Keeps.bind (fun m => hview.remark m _ (by simp)) (fun _ => ha.bind (fun _ => .ofOutcome _))

theorem status_keeps
    (hview : Unconcerned view) (binary : String) :
    Keeps view (status binary) :=
  (path_keeps hview binary).bind (fun path =>
    execute_keeps hview path _ _
      (Keeps.bind (fun m => hview.run m _ _) (fun _ => Keeps.host.map Host.report)))

/-- A load is not seen by a view that sees no load. -/
theorem load_keeps
    (hview : Unconcerned view)
    (hload : ∀ m arguments text,
      view { m with journal := m.journal ++ [.call (.load arguments text)] } = view m)
    (binary file : String) :
    Keeps view (load binary file) := by
  refine (path_keeps hview binary).bind (fun path => execute_keeps hview path _ _ ?_)
  refine Keeps.host.bind (fun h => ?_)
  have hanswer : ∀ arguments text,
      Keeps view (enter (.call (.load arguments text)) >>= fun _ => Pure.pure h.load) := fun _ _ =>
    Keeps.bind (fun m => hload m _ _) (fun _ => .pure _)
  cases h.read (Path.ofString file) with
  | ok bytes =>
      exact hanswer _ _
  | error f =>
      cases f <;> first
        | exact hanswer _ _
        | exact Keeps.bind (fun m => hview.run m _ _) (fun _ => (Keeps.throw _).bind (fun _ => .pure _))

end Engine

namespace Lock

theorem isEnabled_keeps
    (hview : Unconcerned view) (binary : String) :
    Keeps view (isEnabled binary) :=
  (Engine.status_keeps hview binary).bind (fun _ => .pure _)

theorem probe_keeps
    (hview : Unconcerned view) (binary : String) :
    Keeps view (probe binary) := by
  refine (Engine.locate_keeps hview binary).bind (fun found => ?_)
  cases found with
  | none =>
      exact .pure _
  | some path =>
      exact (isEnabled_keeps hview binary).bind (fun _ => .pure _)

theorem Check.action_keeps
    (hview : Unconcerned view) (binary : String) (p : Policy) (c : Check) :
    Keeps view (c.action binary p) := by
  cases c with
  | program =>
      refine (Engine.locate_keeps hview binary).bind (fun found => ?_)
      split
      · exact .throw _
      · exact .pure _
  | superuser =>
      refine Keeps.host.bind (fun h => ?_)
      split
      · exact .throw _
      · exact .pure _
  | baseline =>
      refine Keeps.host.bind (fun h => ?_)
      rcases h.holds (Path.ofString p.baseline) with e | _ | _
      · exact .throw _
      · exact .throw _
      · exact .pure _
  | enabled =>
      refine (isEnabled_keeps hview binary).bind (fun _ => ?_)
      split
      · exact .throw _
      · exact .pure _

theorem check_keeps
    (hview : Unconcerned view) (binary : String) (p : Policy) :
    Keeps view (check binary p) := by
  rw [check_eq]
  exact Keeps.forM (Check.action_keeps hview binary p) _

end Lock
end Killswitch
