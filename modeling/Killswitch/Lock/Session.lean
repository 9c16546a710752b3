import Killswitch.Lock.Control

/-!
# Sessions

A session is a sequence of steps on one engine, between which the world may change. What a step
leaves behind for the next ones is the path of the control program and the files.

**Contents.**
* `Step`, `Answer`, `Step.run`: the steps and what they answer;
* `Action.observe`: what can be seen of an action;
* `Move`, `play`: a session, and what can be seen of its steps.
-/

namespace Killswitch

/-- What can be seen of an action: its outcome, its journal, and the scratch files that are there when
it ends. -/
structure Observation (α : Type) where
  outcome : Except Failure α
  journal : Journal
  scratchFiles : List String

def Host.scratchDirectory : List String :=
  ["tmp"]

/-- The paths of the scratch files that are there, in order. -/
def Host.scratchFiles (h : Host) : List String :=
  ((h.files.filesBelow scratchDirectory).filter
    (fun name => "netlock.".toList.isPrefixOf name.toList)).map (fun name => "/tmp/" ++ name)

/-- Runs an action with an empty journal. -/
def Action.observe {α : Type} (a : Action α) (m : Machine) : Observation α × Machine :=
  let (outcome, m) := a { m with journal := [] }
  (⟨outcome, m.journal, m.host.scratchFiles⟩, m)

namespace Lock

inductive Step where
  | enable (p : Policy)
  | disable (p : Policy)
  | rules (p : Policy)
  | isEnabled
  | probe
  | locate
  | status
  | load (file : String)
  deriving Repr

inductive Answer where
  | state (s : State)
  | text (s : String)
  | truth (b : Bool)
  | path (p : Option String)
  deriving DecidableEq, Repr

def Step.run (binary : String) : Step → Action Answer
  | .enable p => .state <$> Lock.enable binary p
  | .disable p => .state <$> Lock.disable binary p
  | .rules p => return .text p.ruleset
  | .isEnabled => .truth <$> Lock.isEnabled binary
  | .probe => .state <$> Lock.probe binary
  | .locate => .path <$> Engine.locate binary
  | .status => .text <$> Engine.status binary
  | .load file => .text <$> Engine.load binary file

/-- A move of a session: a step, or a change of the world. -/
inductive Move where
  | step (s : Step)
  | change (c : Host → Host)

/-- What can be seen of the steps of a session. -/
def play (binary : String) : Machine → List Move → List (Observation Answer)
  | _, [] => []
  | m, .change c :: rest => play binary { m with host := c m.host } rest
  | m, .step s :: rest =>
      let (seen, m) := (s.run binary).observe m
      seen :: play binary m rest

end Lock
end Killswitch
