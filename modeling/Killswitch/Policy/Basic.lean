import Killswitch.Source.Basic

/-!
# Options and policies

Options are what a policy document or a command line asks for. A policy is what a lock does: its
destinations are addresses, and the ruleset to go back to is known.

**Contents.**
* `Permissions`: the four kinds of traffic that may be let through as a whole;
* `Options`, `Options.merge`: requests, and two of them taken together;
* `Flags`, `Options.ofFlags`: the requests of a command line;
* `Policy`, `Policy.of`: a policy, where the usual baseline stands in for an empty one.
-/

namespace Killswitch

/-- The kinds of traffic that are let through whatever their destination. -/
structure Permissions where
  incoming : Bool
  outgoing : Bool
  privateNetwork : Bool
  icmp : Bool
  deriving DecidableEq, Repr

namespace Permissions

/-- Nothing is let through as a whole. -/
def none : Permissions :=
  ⟨false, false, false, false⟩

/-- What either of two permissions lets through. -/
def or (p q : Permissions) : Permissions :=
  ⟨p.incoming || q.incoming, p.outgoing || q.outgoing, p.privateNetwork || q.privateNetwork,
    p.icmp || q.icmp⟩

end Permissions

/-- What a user asks for, before any destination is resolved. An empty baseline is none. -/
structure Options where
  allow : Permissions
  interfaces : List String
  sources : List Source
  useRouting : Bool
  baseline : String
  deriving DecidableEq, Repr

/-- The first text, or the second one if the first is empty. -/
def orIfEmpty (s t : String) : String :=
  if s = "" then t else s

namespace Options

def empty : Options :=
  ⟨.none, [], [], false, ""⟩

/-- Two requests taken together: `base` comes first, but a baseline of `more` wins. -/
def merge (base more : Options) : Options where
  allow := base.allow.or more.allow
  interfaces := base.interfaces ++ more.interfaces
  sources := base.sources ++ more.sources
  useRouting := base.useRouting || more.useRouting
  baseline := orIfEmpty more.baseline base.baseline

@[simp] theorem merge_sources
    (base more : Options) :
    (merge base more).sources = base.sources ++ more.sources := by
  rfl

end Options

/-- The values of the options on a command line, by kind. -/
structure Flags where
  addresses : List String
  hosts : List String
  files : List String
  interfaces : List String
  allow : Permissions
  useRouting : Bool
  baseline : Option String
  deriving DecidableEq, Repr

def Flags.empty : Flags :=
  ⟨[], [], [], [], .none, false, none⟩

/-- Sources by kind: all addresses, then all hosts, then all files. -/
def Source.listOf (addresses hosts files : List String) : List Source :=
  addresses.map (Source.mk .address) ++ hosts.map (Source.mk .host) ++ files.map (Source.mk .file)

def Options.ofFlags (f : Flags) : Options where
  allow := f.allow
  interfaces := f.interfaces
  sources := Source.listOf f.addresses f.hosts f.files
  useRouting := f.useRouting
  baseline := f.baseline.getD ""

/-- The ruleset to go back to where no other one is named. -/
def usualBaseline : String :=
  "/etc/pf.conf"

/-- What a lock lets through, and the ruleset to go back to when it is taken off. -/
structure Policy where
  allow : Permissions
  interfaces : List String
  destinations : List String
  baseline : String
  baseline_ne_empty : baseline ≠ ""
  deriving DecidableEq, Repr

theorem orIfEmpty_ne_empty {s t : String} (h : t ≠ "") :
    orIfEmpty s t ≠ "" := by
  unfold orIfEmpty
  split
  · exact h
  · assumption

/-- A policy whose baseline is the usual one if none is given. -/
def Policy.of (allow : Permissions) (interfaces destinations : List String) (baseline : String) :
    Policy where
  allow := allow
  interfaces := interfaces
  destinations := destinations
  baseline := orIfEmpty baseline usualBaseline
  baseline_ne_empty := orIfEmpty_ne_empty (by decide)

end Killswitch
