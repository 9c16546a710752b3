import Killswitch.Text.Search

/-!
# Rulesets

The part of the packet filter's language that a lock is written in. A ruleset is a list of lines; the
filter lets the last rule that fits a packet decide, or the first one that is quick.

**Contents.**
* `Scope`: the packets that a rule is about;
* `Rule`: what happens to them;
* `Line`: rules, and the settings in front of them;
* `Ruleset.toString`: the text that is loaded.
-/

namespace Killswitch

inductive Family where
  | inet
  | inet6
  deriving DecidableEq, Repr

def Family.toString : Family → String
  | .inet => "inet"
  | .inet6 => "inet6"

/-- The kind that a destination is taken for: the wide one has colons. -/
def Family.ofDestination (destination : String) : Family :=
  if destination.toList.contains ':' then .inet6 else .inet

/-- What becomes of a packet. -/
inductive Verdict where
  | pass
  | block
  deriving DecidableEq, Repr

/-- The way of a packet as seen from the host. -/
inductive Direction where
  | incoming
  | outgoing
  deriving DecidableEq, Repr

/-- The packets that a rule is about: all, those of the control protocols, and those within a network,
from networks to others or to a destination. -/
inductive Scope where
  | all
  | icmp
  | within (network : String)
  | between (sources targets : List String)
  | toDestination (family : Family) (destination : String)
  deriving DecidableEq, Repr

/-- A rule, about both directions if it has none; a quick one decides at once. -/
structure Rule where
  verdict : Verdict
  direction : Option Direction
  quick : Bool
  scope : Scope
  deriving DecidableEq, Repr

inductive Line where
  | blockPolicy
  | skip (interfaces : List String)
  | scrub
  | rule (r : Rule)
  deriving DecidableEq, Repr

/-- The lines of a ruleset, the first one first. -/
abbrev Ruleset := List Line

/-! ## Text -/

/-- A group of names between braces. -/
def braced (separator : String) (names : List String) : String :=
  "\x7b " ++ Text.joinWith separator names ++ " \x7d"

def Verdict.toString : Verdict → String
  | .pass => "pass"
  | .block => "block"

def Direction.toString : Direction → String
  | .incoming => "in"
  | .outgoing => "out"

def Scope.toString : Scope → String
  | .all => "all"
  | .icmp => "proto " ++ braced ", " ["icmp", "icmp6"] ++ " all"
  | .within network => "from " ++ network ++ " to " ++ network
  | .between sources targets => "from " ++ braced ", " sources ++ " to " ++ braced ", " targets
  | .toDestination family destination => family.toString ++ " from any to " ++ destination

def Rule.toString (r : Rule) : String :=
  r.verdict.toString
    ++ (match r.direction with
        | some d => " " ++ d.toString
        | none => "")
    ++ (if r.quick then " quick" else "")
    ++ " " ++ r.scope.toString

def Line.toString : Line → String
  | .blockPolicy => "set block-policy return"
  | .skip interfaces => "set skip on " ++ braced " " interfaces
  | .scrub => "scrub in all fragment reassemble"
  | .rule r => r.toString

/-- The text of a ruleset, with a line feed after every line. -/
def Ruleset.toString (rules : Ruleset) : String :=
  String.join (rules.map (fun line => line.toString ++ "\n"))

end Killswitch
