import Mathlib.Data.List.Basic
import Killswitch.Proofs.Ruleset.Admission

/-!
# What a ruleset tells of its policy

Everything in a policy but its baseline is found again in the text of its ruleset. The text is cut into
lines, and each of them shows by how it begins what it is about: no rule for a destination begins like one
of the other rules, whatever stands where the destination is named. So two policies with one text differ in
their baselines at most.

**Names.** It is enough that no name holds a line feed, and that no name of an interface holds a space. A
name may be empty, or look like a brace or like the rest of a rule.

**Results.**
* `Contents`, `Policy.contents`: a policy without its baseline;
* `Contents.ofText?`: the contents that a text of a ruleset tells;
* `unbroken_ofPolicy`: no line of a ruleset holds a line feed;
* `destinationOf?_destinationRule`, `destinations_exceptions`: the destinations are told by their rules;
* `ofText?_ruleset`: the contents of a policy are told by its ruleset;
* `ruleset_eq_iff`: when two policies have one ruleset.
-/

namespace Killswitch

/-- What a policy says besides its baseline. -/
structure Contents where
  allow : Permissions
  interfaces : List String
  destinations : List String
  deriving DecidableEq, Repr

def Policy.contents (p : Policy) : Contents :=
  ⟨p.allow, p.interfaces, p.destinations⟩

/-! ## Reading lines -/

namespace Contents

open Killswitch.Ruleset

/-- The beginning of a rule for a destination of some family. -/
def leadIn (family : Family) : List Char :=
  ("pass out quick " ++ family.toString ++ " from any to ").toList

/-- The destination that a line is the rule for. -/
def destinationOf? (line : List Char) : Option String :=
  ((line.dropPrefix? (leadIn .inet)).or (line.dropPrefix? (leadIn .inet6))).map String.ofList

/-- The interfaces of a line about exempt ones: the words between its braces, without the first one, which
is the loopback. -/
def interfacesOf (line : List Char) : List String :=
  (((Text.pieces (· == ' ') line).drop 5).dropLast).map String.ofList

/-- A line of a rule, as it stands in a text. -/
def lineOf (r : Rule) : List Char :=
  r.toString.toList

/-- Whether all of some rules have a line among the given ones. -/
def holdsAll (lines : List (List Char)) (rules : List Rule) : Bool :=
  rules.all (fun r => lines.contains (lineOf r))

/-- The contents that the lines of a ruleset tell. -/
def ofLines? : List (List Char) → Option Contents
  | _ :: skip :: _ :: incoming :: outgoing :: exceptions =>
      some {
        allow := {
          incoming := incoming == lineOf (defaultRule .incoming true)
          outgoing := outgoing == lineOf (defaultRule .outgoing true)
          privateNetwork := holdsAll exceptions privateNetworkRules
          icmp := holdsAll exceptions icmpRules }
        interfaces := interfacesOf skip
        destinations := exceptions.filterMap destinationOf? }
  | _ => none

/-- The lines of a text; what stands behind the last line feed is none. -/
def linesOf (text : String) : List (List Char) :=
  (Text.pieces (· == '\n') text.toList).dropLast

/-- The contents that the text of a ruleset tells. -/
def ofText? (text : String) : Option Contents :=
  ofLines? (linesOf text)

/-! ## Destinations -/

theorem lineOf_destinationRule (destination : String) :
    lineOf (destinationRule destination)
      = leadIn (.ofDestination destination) ++ destination.toList := by
  simp [lineOf, leadIn, destinationRule, Rule.toString, Scope.toString, Verdict.toString,
    Direction.toString]

/-- The destination is what stands behind the beginning of its rule, whatever it is. -/
theorem destinationOf?_destinationRule (destination : String) :
    destinationOf? (lineOf (destinationRule destination)) = some destination := by
  have hbehind : ∀ family : Family,
      destinationOf? (leadIn family ++ destination.toList) = some destination := by
    intro family
    have hfound := List.dropPrefix?_append_of_beq destination.toList (beq_self_eq_true (leadIn family))
    cases family with
    | inet =>
        rw [destinationOf?, hfound]
        simp
    | inet6 =>
        -- the two beginnings part at the blank behind the shorter word for a family
        have hother : (leadIn .inet6 ++ destination.toList).dropPrefix? (leadIn .inet) = none := by
          rfl
        rw [destinationOf?, hfound, hother]
        simp
  rw [lineOf_destinationRule]
  exact hbehind _

/-- The other rules are for no destination. -/
theorem destinationOf?_eq_none :
    ∀ r ∈ privateNetworkRules ++ icmpRules, destinationOf? (lineOf r) = none := by
  decide +kernel

/-- The destinations of a policy are told by the rules behind the first two, in their order. -/
theorem destinations_exceptions (p : Policy) :
    ((exceptions p).map lineOf).filterMap destinationOf? = p.destinations := by
  have hwhole : ∀ (allowed : Bool) (rules : List Rule),
      (∀ r ∈ rules, r ∈ privateNetworkRules ++ icmpRules) →
      ((if allowed then rules else []).map lineOf).filterMap destinationOf? = [] := by
    intro allowed rules hrules
    refine List.filterMap_eq_nil_iff.2 (fun line hline => ?_)
    obtain ⟨r, hr, rfl⟩ := List.mem_map.1 hline
    cases allowed with
    | true =>
        exact destinationOf?_eq_none r (hrules r hr)
    | false =>
        contradiction
  have hnamed : ((p.destinations.map destinationRule).map lineOf).filterMap destinationOf?
      = p.destinations := by
    simp [List.filterMap_map, Function.comp_def, destinationOf?_destinationRule]
  rw [exceptions, List.map_append, List.map_append, List.filterMap_append, List.filterMap_append,
    hwhole _ _ (fun r hr => List.mem_append_left _ hr), hwhole _ _ (fun r hr => List.mem_append_right _ hr),
    hnamed]
  rfl

/-! ## Permissions -/

/-- A rule for no destination stands behind the first two only as a part of what is let through as a
whole. -/
theorem lineOf_mem_exceptions_iff
    {p : Policy} {r : Rule}
    (hr : r ∈ privateNetworkRules ++ icmpRules) :
    lineOf r ∈ (exceptions p).map lineOf
      ↔ (p.allow.privateNetwork = true ∧ lineOf r ∈ privateNetworkRules.map lineOf)
        ∨ (p.allow.icmp = true ∧ lineOf r ∈ icmpRules.map lineOf) := by
  have hnot : lineOf r ∉ (p.destinations.map destinationRule).map lineOf := by
    intro hmem
    obtain ⟨named, hnamed, hline⟩ := List.mem_map.1 hmem
    obtain ⟨destination, -, rfl⟩ := List.mem_map.1 hnamed
    have hsome := destinationOf?_destinationRule destination
    rw [hline, destinationOf?_eq_none r hr] at hsome
    contradiction
  have hgiven : ∀ (allowed : Bool) (rules : List Rule),
      lineOf r ∈ (if allowed then rules else []).map lineOf
        ↔ allowed = true ∧ lineOf r ∈ rules.map lineOf := by
    intro allowed rules
    cases allowed <;> simp
  rw [exceptions, List.map_append, List.map_append, List.mem_append, List.mem_append, hgiven, hgiven,
    or_iff_left hnot]

/-- The rules of private networks and those of the control protocols have no line in common. -/
theorem lineOf_apart :
    ∀ r ∈ privateNetworkRules, ∀ s ∈ icmpRules, lineOf r ≠ lineOf s := by
  decide +kernel

theorem holdsAll_eq
    {p : Policy} {rules : List Rule} {allowed : Bool}
    (hne : rules ≠ [])
    (hrules : ∀ r ∈ rules, lineOf r ∈ (exceptions p).map lineOf ↔ allowed = true) :
    holdsAll ((exceptions p).map lineOf) rules = allowed := by
  rw [Bool.eq_iff_iff, holdsAll, List.all_eq_true]
  simp only [List.contains_iff_mem]
  constructor
  · intro hall
    obtain ⟨r, hr⟩ := List.exists_mem_of_ne_nil rules hne
    exact (hrules r hr).1 (hall r hr)
  · intro hallowed r hr
    exact (hrules r hr).2 hallowed

theorem holdsAll_privateNetworkRules (p : Policy) :
    holdsAll ((exceptions p).map lineOf) privateNetworkRules = p.allow.privateNetwork := by
  refine holdsAll_eq (by decide) (fun r hr => ?_)
  have hother : lineOf r ∉ icmpRules.map lineOf := by
    intro hmem
    obtain ⟨s, hs, hline⟩ := List.mem_map.1 hmem
    exact lineOf_apart r hr s hs hline.symm
  rw [lineOf_mem_exceptions_iff (List.mem_append_left _ hr)]
  simp [hother, List.mem_map_of_mem hr]

theorem holdsAll_icmpRules (p : Policy) :
    holdsAll ((exceptions p).map lineOf) icmpRules = p.allow.icmp := by
  refine holdsAll_eq (by decide) (fun s hs => ?_)
  have hother : lineOf s ∉ privateNetworkRules.map lineOf := by
    intro hmem
    obtain ⟨r, hr, hline⟩ := List.mem_map.1 hmem
    exact lineOf_apart r hr s hs hline
  rw [lineOf_mem_exceptions_iff (List.mem_append_right _ hs)]
  simp [hother, List.mem_map_of_mem hs]

/-- The first two rules show what is let through in their directions. -/
theorem lineOf_defaultRule (direction : Direction) (allowed : Bool) :
    (lineOf (defaultRule direction allowed) == lineOf (defaultRule direction true)) = allowed := by
  cases direction <;> cases allowed <;> decide

/-! ## Interfaces -/

/-- The interfaces between the braces are those of the line. -/
theorem interfacesOf_skip
    {interfaces : List String}
    (hspace : ∀ name ∈ interfaces, ' ' ∉ name.toList) :
    interfacesOf (Line.skip (loopback :: interfaces)).toString.toList = interfaces := by
  have hwords : ∀ word ∈ (Line.skip (loopback :: interfaces)).words, ∀ c ∈ word.toList,
      (c == ' ') = false := by
    intro word hword c hc
    have hfixed : ∀ word ∈ ["set", "skip", "on", "\x7b", loopback, "\x7d"], ' ' ∉ word.toList := by
      decide
    have hmem : word ∈ ["set", "skip", "on", "\x7b", loopback, "\x7d"] ∨ word ∈ interfaces := by
      simp only [Line.words, grouped, List.cons_append, List.nil_append, List.mem_cons,
        List.mem_append, List.not_mem_nil, or_false] at hword ⊢
      tauto
    rw [beq_eq_false_iff_ne]
    rintro rfl
    exact hmem.elim (fun h => hfixed word h hc) (fun h => hspace word h hc)
  have hblank : " ".toList = [' '] := rfl
  rw [interfacesOf, Line.skip_toString_eq (by simp),
    Text.pieces_joinWith hblank (by decide) (by simp [Line.words]) hwords]
  simp [Line.words, grouped, Function.comp_def]

/-! ## Lines -/

/-- The names of a policy hold no line feed, and no interface holds a space. -/
structure Separable (p : Policy) : Prop where
  interfaces : ∀ name ∈ p.interfaces, ' ' ∉ name.toList ∧ '\n' ∉ name.toList
  destinations : ∀ destination ∈ p.destinations, '\n' ∉ destination.toList

/-- The line about exempt interfaces holds a line feed only if one of them does. -/
theorem unbroken_skip
    {interfaces : List String}
    (h : ∀ name ∈ interfaces, '\n' ∉ name.toList) :
    '\n' ∉ (Line.skip (loopback :: interfaces)).toString.toList := by
  have hloopback : '\n' ∉ loopback.toList := by
    decide
  have hjoined : '\n' ∉ (Text.joinWith " " (loopback :: interfaces)).toList := by
    intro hmem
    rcases Text.mem_joinWith hmem with hspace | ⟨name, hname, hc⟩
    · simp at hspace
    · rcases List.mem_cons.1 hname with rfl | hname
      · exact hloopback hc
      · exact h name hname hc
  simpa [Line.toString, braced] using hjoined

theorem unbroken_destinationRule
    {destination : String}
    (h : '\n' ∉ destination.toList) :
    '\n' ∉ lineOf (destinationRule destination) := by
  have hlead : ∀ family, '\n' ∉ leadIn family := by
    intro family
    cases family <;> decide
  rw [lineOf_destinationRule, List.mem_append]
  exact not_or.2 ⟨hlead _, h⟩

/-- No line of a ruleset holds a line feed. -/
theorem unbroken_ofPolicy
    {p : Policy}
    (h : Separable p) :
    ∀ line ∈ ofPolicy p, '\n' ∉ line.toString.toList := by
  have hfixed : ∀ line ∈ [Line.blockPolicy, .scrub], '\n' ∉ line.toString.toList := by
    decide
  have hdefault : ∀ direction allowed, '\n' ∉ lineOf (defaultRule direction allowed) := by
    intro direction allowed
    cases direction <;> cases allowed <;> decide
  have hwhole : ∀ r ∈ privateNetworkRules ++ icmpRules, '\n' ∉ lineOf r := by
    decide +kernel
  have hexceptions : ∀ r ∈ exceptions p, '\n' ∉ lineOf r := by
    intro r hr
    rcases mem_exceptions.1 hr with ⟨-, hr⟩ | ⟨-, hr⟩ | ⟨destination, hmem, rfl⟩
    · exact hwhole r (List.mem_append_left _ hr)
    · exact hwhole r (List.mem_append_right _ hr)
    · exact unbroken_destinationRule (h.destinations destination hmem)
  intro line hline
  simp only [ofPolicy, rulesOf_eq, List.map_cons, List.cons_append, List.nil_append, List.mem_cons,
    List.mem_map] at hline
  rcases hline with rfl | rfl | rfl | rfl | rfl | ⟨r, hr, rfl⟩
  · exact hfixed _ (by simp)
  · exact unbroken_skip (fun name hname => (h.interfaces name hname).2)
  · exact hfixed _ (by simp)
  · exact hdefault _ _
  · exact hdefault _ _
  · exact hexceptions r hr

/-- The lines of a text are those of its ruleset. -/
theorem linesOf_ruleset
    {p : Policy}
    (h : Separable p) :
    linesOf p.ruleset = (ofPolicy p).map (fun line => line.toString.toList) := by
  have hbreak : "\n".toList = ['\n'] := rfl
  have htexts : ∀ text ∈ (ofPolicy p).map Line.toString, ∀ c ∈ text.toList, (c == '\n') = false := by
    intro text htext c hc
    obtain ⟨line, hline, rfl⟩ := List.mem_map.1 htext
    rw [beq_eq_false_iff_ne]
    rintro rfl
    exact unbroken_ofPolicy h line hline hc
  have hpieces := Text.pieces_ended hbreak (by decide) htexts
  rw [List.map_map, List.map_map] at hpieces
  exact (congrArg List.dropLast hpieces).trans List.dropLast_concat

/-- The contents of a policy are told by its ruleset. -/
theorem ofText?_ruleset
    {p : Policy}
    (h : Separable p) :
    ofText? p.ruleset = some p.contents := by
  have hlines : linesOf p.ruleset
      = Line.blockPolicy.toString.toList :: (Line.skip (loopback :: p.interfaces)).toString.toList
        :: Line.scrub.toString.toList :: lineOf (defaultRule .incoming p.allow.incoming)
        :: lineOf (defaultRule .outgoing p.allow.outgoing) :: (exceptions p).map lineOf := by
    rw [linesOf_ruleset h, ofPolicy, rulesOf_eq]
    simp [lineOf, Line.toString, Function.comp_def]
  have hinterfaces := interfacesOf_skip (fun name hname => (h.interfaces name hname).1)
  rw [ofText?, hlines, ofLines?, hinterfaces, destinations_exceptions, lineOf_defaultRule,
    lineOf_defaultRule, holdsAll_privateNetworkRules, holdsAll_icmpRules]
  rfl

end Contents

open Contents

/-- A ruleset tells everything of its policy but the baseline. Where no name holds a line feed and no
interface holds a space, two policies have the same text if and only if they let the same through as a
whole, and name the same interfaces and the same destinations, each in the same order and as often. -/
theorem ruleset_eq_iff
    {p q : Policy}
    (hinterfaces : ∀ name ∈ p.interfaces ++ q.interfaces, ' ' ∉ name.toList ∧ '\n' ∉ name.toList)
    (hdestinations : ∀ destination ∈ p.destinations ++ q.destinations, '\n' ∉ destination.toList) :
    p.ruleset = q.ruleset
      ↔ p.allow = q.allow ∧ p.interfaces = q.interfaces ∧ p.destinations = q.destinations := by
  have hp : Separable p :=
    ⟨fun name hname => hinterfaces name (List.mem_append_left _ hname),
      fun destination hmem => hdestinations destination (List.mem_append_left _ hmem)⟩
  have hq : Separable q :=
    ⟨fun name hname => hinterfaces name (List.mem_append_right _ hname),
      fun destination hmem => hdestinations destination (List.mem_append_right _ hmem)⟩
  constructor
  · intro hsame
    have htold : some p.contents = some q.contents := by
      rw [← ofText?_ruleset hp, ← ofText?_ruleset hq, hsame]
    simpa [Policy.contents] using htold
  · rintro ⟨hallow, hnames, hnamed⟩
    simp only [Policy.ruleset, Ruleset.ofPolicy, Ruleset.rulesOf, hallow, hnames, hnamed]

/-- An interface without a name is told from no interface at all. -/
theorem namelessInterface_ruleset_ne :
    (Policy.of .none [""] ["fe80::1"] "").ruleset ≠ (Policy.of .none [] ["fe80::1"] "").ruleset := by
  intro hsame
  have hboth := (ruleset_eq_iff (by decide) (by decide)).1 hsame
  exact absurd hboth.2.1 (by decide)

end Killswitch
