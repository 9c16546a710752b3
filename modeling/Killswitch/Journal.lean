/-!
# The journal

Everything that a run does to be seen from outside, in order: the requests that it makes of the
host, the records that it logs, what it shows to the user, what it writes as its result, and the
scratch files that it sets out to remove.

**Contents.**
* `Call`: a request to the host;
* `Level`, `Record`: a logged remark and its weight;
* `Event`: an entry of the journal;
* `Journal.calls`, `Journal.records`, `Journal.warnings`, `Journal.output`, `Journal.removals`: views
  of a journal.
-/

namespace Killswitch

/-- A request to the host. A load is kept with the text of the file that it names, if that file can be
opened. -/
inductive Call where
  | resolve (name : String)
  | locate (binary : String)
  | run (arguments : List String) (limit : Option Nat)
  | load (arguments : List String) (content : Option String)
  deriving DecidableEq, Repr

/-- The weight of a remark. -/
inductive Level where
  | debug
  | info
  | warning
  deriving DecidableEq, Repr

def Level.name : Level → String
  | .debug => "DEBUG"
  | .info => "INFO"
  | .warning => "WARNING"

/-- A remark: its weight, where it comes from, and its text. -/
structure Record where
  level : Level
  origin : String
  text : String
  deriving DecidableEq, Repr

/-- An entry of the journal. A removal is entered whether or not it is granted. -/
inductive Event where
  | call (c : Call)
  | remark (r : Record)
  | notice (text : String)
  | output (text : String)
  | removal (path : String)
  deriving DecidableEq, Repr

/-- The entries of a run, the first one first. -/
abbrev Journal := List Event

namespace Journal

/-- The requests to the host. -/
def calls (j : Journal) : List Call :=
  j.filterMap (fun e =>
    match e with
    | .call c => some c
    | _ => none)

def records (j : Journal) : List Record :=
  j.filterMap (fun e =>
    match e with
    | .remark r => some r
    | _ => none)

/-- The texts of the warnings. -/
def warnings (j : Journal) : List String :=
  (j.records.filter (fun r => r.level = .warning)).map (·.text)

/-- What was written as the result. -/
def output (j : Journal) : String :=
  String.join (j.filterMap (fun e =>
    match e with
    | .output text => some text
    | _ => none))

/-- The scratch files that were to be removed. -/
def removals (j : Journal) : List String :=
  j.filterMap (fun e =>
    match e with
    | .removal path => some path
    | _ => none)

@[simp] theorem calls_append (j k : Journal) :
    calls (j ++ k) = calls j ++ calls k := by
  simp [calls]

end Journal
end Killswitch
