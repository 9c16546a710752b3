import Killswitch.Proofs.Address.Cover

/-!
# The packet filter

What the filter makes of the text of a ruleset, as its manual has it.

**Reading.** A text is a list of lines, and the fields of a line are separated by single blanks. A line
is a setting, a list of interfaces to skip, or a rule. A rule is a verdict, followed by a direction, the
word for a quick rule, a family, protocols, and the end points of packets; all but the verdict and the end
points may be left out. Names stand alone or, with commas between them, in braces; the last field of a rule
is a name whatever it is. What is no such text is refused as a whole.

**Deciding.** A packet on an interface that is skipped passes. For every other packet the rules are tried
from the first to the last. A rule that fits and is quick decides at once, otherwise the last rule that
fits decides, and where none does the packet passes. A rule without direction is about both. Packets are
judged by the rules alone, as the first one of a connection is.

**Results.**
* `Packet`, `Clause`, `Statement`: packets, and what a line says about them;
* `read?`: the reader;
* `judge`, `judgeText?`: what becomes of a packet, by what was read and by a text;
* `settle_quick`: rules that all are quick and pass.
-/

namespace Killswitch
namespace Filter

open Killswitch.Address

/-- A packet on an interface of the host, on its way in or out. -/
structure Packet where
  interface : String
  direction : Direction
  protocol : String
  source : Literal
  target : Literal
  sameFamily : source.family = target.family

/-- The end points that a rule is about: all of them, or those that one of some names covers. -/
inductive Hosts where
  | any
  | named (names : List String)
  deriving DecidableEq, Repr

/-- A rule as the filter reads it. What it leaves open fits every packet. -/
structure Clause where
  verdict : Verdict
  direction : Option Direction
  quick : Bool
  family : Option Family
  protocols : Option (List String)
  sources : Hosts
  targets : Hosts
  deriving DecidableEq, Repr

/-- What a line says: nothing about which packets pass, that interfaces are skipped, or a rule. -/
inductive Statement where
  | setting
  | skip (interfaces : List String)
  | clause (c : Clause)
  deriving DecidableEq, Repr

/-! ## Reading -/

def fields (line : List Char) : List String :=
  (Text.pieces Text.isBlank line).map String.ofList

/-- The verdict at the start of a rule, and the fields after it. -/
def readVerdict? : List String → Option (Verdict × List String)
  | "pass" :: rest => some (.pass, rest)
  | "block" :: rest => some (.block, rest)
  | _ => none

def readDirection : List String → Option Direction × List String
  | "in" :: rest => (some .incoming, rest)
  | "out" :: rest => (some .outgoing, rest)
  | rest => (none, rest)

def readQuick : List String → Bool × List String
  | "quick" :: rest => (true, rest)
  | rest => (false, rest)

def readFamily : List String → Option Family × List String
  | "inet" :: rest => (some .inet, rest)
  | "inet6" :: rest => (some .inet6, rest)
  | rest => (none, rest)

/-- A name without the comma at its end. -/
def withoutComma (name : String) : String :=
  if name.toList.getLast? = some ',' then String.ofList name.toList.dropLast else name

/-- The names up to a closing brace. -/
def readGroup? : List String → Option (List String × List String)
  | [] => none
  | field :: rest =>
      if field = "\x7d" then some ([], rest)
      else (readGroup? rest).map (fun (names, rest) => (withoutComma field :: names, rest))

/-- The protocols of a rule, if it has any. -/
def readProtocols? : List String → Option (Option (List String) × List String)
  | "proto" :: "\x7b" :: rest => (readGroup? rest).map (fun (names, rest) => (some names, rest))
  | "proto" :: name :: rest => some (some [name], rest)
  | rest => some (none, rest)

def readHosts? : List String → Option (Hosts × List String)
  | [] => none
  | [name] => some (.named [name], [])
  | field :: rest =>
      if field = "any" then some (.any, rest)
      else if field = "\x7b" then (readGroup? rest).map (fun (names, rest) => (.named names, rest))
      else some (.named [field], rest)

def readEnds? : List String → Option (Hosts × Hosts)
  | ["all"] => some (.any, .any)
  | "from" :: rest =>
      match readHosts? rest with
      | some (sources, "to" :: rest) =>
          match readHosts? rest with
          | some (targets, []) => some (sources, targets)
          | _ => none
      | _ => none
  | _ => none

/-- The rule that the fields of a line spell. -/
def readClause? (line : List String) : Option Clause := do
  let (verdict, rest) ← readVerdict? line
  let (direction, rest) := readDirection rest
  let (quick, rest) := readQuick rest
  let (family, rest) := readFamily rest
  let (protocols, rest) ← readProtocols? rest
  let (sources, targets) ← readEnds? rest
  return ⟨verdict, direction, quick, family, protocols, sources, targets⟩

/-- What the fields of a line say. -/
def readStatement? : List String → Option Statement
  | [""] => some .setting
  | "set" :: "block-policy" :: _ => some .setting
  | "set" :: "skip" :: "on" :: "\x7b" :: rest =>
      if rest.getLast? = some "\x7d" then some (.skip rest.dropLast) else none
  | "scrub" :: _ => some .setting
  | line => (readClause? line).map .clause

def readLines? : List (List Char) → Option (List Statement)
  | [] => some []
  | line :: rest => do return (← readStatement? (fields line)) :: (← readLines? rest)

def read? (text : String) : Option (List Statement) :=
  readLines? (Text.pieces (· == '\n') text.toList)

/-! ## Deciding -/

/-- Whether an address is among end points. -/
def Hosts.hold (a : Literal) : Hosts → Bool
  | .any => true
  | .named names => names.any (fun name => covers name a)

/-- Whether a rule fits a packet. -/
def Clause.fits (c : Clause) (k : Packet) : Bool :=
  c.direction.all (· = k.direction)
    && c.family.all (· = k.target.family)
    && c.protocols.all (fun names => names.contains k.protocol)
    && c.sources.hold k.source
    && c.targets.hold k.target

/-- What becomes of a packet by some rules, where `verdict` is that of the last rule before them that has
fitted it. -/
def settle (k : Packet) (verdict : Verdict) : List Clause → Verdict
  | [] => verdict
  | c :: rest =>
      if c.fits k then
        if c.quick then c.verdict else settle k c.verdict rest
      else settle k verdict rest

def Statement.skips (interface : String) : Statement → Bool
  | .skip interfaces => interfaces.contains interface
  | _ => false

/-- The rule of a line, if it is one. -/
def Statement.clause? : Statement → Option Clause
  | .clause c => some c
  | _ => none

/-- What becomes of a packet. -/
def judge (statements : List Statement) (k : Packet) : Verdict :=
  if statements.any (·.skips k.interface) then .pass
  else settle k .pass (statements.filterMap Statement.clause?)

/-- What becomes of a packet by the text of a ruleset, if it can be read. -/
def judgeText? (text : String) (k : Packet) : Option Verdict :=
  (read? text).map (fun statements => judge statements k)

/-- Where all rules are quick and pass, a packet passes if one of them fits it. -/
theorem settle_quick
    {k : Packet} {verdict : Verdict} {clauses : List Clause}
    (hquick : ∀ c ∈ clauses, c.quick = true)
    (hpass : ∀ c ∈ clauses, c.verdict = .pass) :
    settle k verdict clauses = if clauses.any (·.fits k) then .pass else verdict := by
  induction clauses with
  | nil =>
      rfl
  | cons c rest ih =>
      have hrest := ih (fun d hd => hquick d (List.mem_cons_of_mem c hd))
        (fun d hd => hpass d (List.mem_cons_of_mem c hd))
      by_cases hfits : c.fits k = true
      · simp [settle, hfits, hquick c List.mem_cons_self, hpass c List.mem_cons_self]
      · simp [settle, hfits, hrest]

end Filter
end Killswitch
