import Killswitch.Proofs.Address.Spelling
import Killswitch.Proofs.Ruleset.Admission
import Killswitch.Proofs.Text.Words

/-!
# Rules that are single lines

A destination is written into its rule as it is. So it is the destination that decides whether the rule is a
single line with the destination as its last word, or whether something of the destination becomes a word or a
line of its own. Just those texts stay within their rule that are words themselves.

**Literal addresses.** An address of either family is a word but for its zone, which may hold blanks and line
breaks. What stands behind a line break in a zone is a line of the ruleset, and the filter reads it as one.

**Results.**
* `lines_toString`, `lines_ruleset`, `lines_ruleset_destinations`: the lines of the text of a ruleset;
* `Confined`, `confined_iff`: the destinations that stay within their rule;
* `Literal.isWord_iff`: the addresses that are words;
* `literal_confined_iff`: the addresses that stay within their rule;
* `injectedAddress_passes_all`: an address whose rule is two lines.
-/

namespace Killswitch

open Killswitch.Address
open Text (IsWord)

namespace Ruleset

/-! ## The lines of a text -/

theorem toList_toString_cons
    (line : Line) (rules : Ruleset) :
    (Ruleset.toString (line :: rules)).toList
      = line.toString.toList ++ '\n' :: (Ruleset.toString rules).toList := by
  simp [Ruleset.toString, String.join_cons]

/-- The lines of a ruleset are those of its lines, each ended by a line feed. -/
theorem lines_toString
    (rules : Ruleset) :
    Text.lines rules.toString.toList
      = rules.flatMap (fun line => Text.lines (line.toString.toList ++ ['\n'])) := by
  induction rules with
  | nil =>
      rfl
  | cons line rules ih =>
      rw [toList_toString_cons, Text.lines_append_feed, ih, List.flatMap_cons]

theorem lines_feed_of_not_break
    {line : List Char} (h : ∀ c ∈ line, Text.isLineBreak c = false) :
    Text.lines (line ++ ['\n']) = [line] :=
  Text.lines_append_break h rfl (by simp)

/-- A line whose names hold no blank holds no line break. -/
theorem not_break_of_legible
    {line : Line} (h : line.Legible) :
    ∀ c ∈ line.toString.toList, Text.isLineBreak c = false := by
  rw [Line.toString_eq h]
  intro c hc
  rcases Text.mem_joinWith hc with hspace | ⟨word, hword, hin⟩
  · obtain rfl : c = ' ' := by simpa using hspace
    rfl
  · exact Text.not_break_of_not_blank (Line.unblank_of_mem_words h word hword c hin)

/-- Where no name of a policy holds a blank, each line of its ruleset is a single line of the text. -/
theorem lines_ruleset
    {p : Policy}
    (hinterfaces : ∀ interface ∈ p.interfaces, Unblank interface)
    (hdestinations : ∀ destination ∈ p.destinations, Unblank destination) :
    Text.lines p.ruleset.toList = (ofPolicy p).map (fun line => line.toString.toList) := by
  have hsingle : ∀ line ∈ ofPolicy p, Text.lines (line.toString.toList ++ ['\n']) = [line.toString.toList] :=
    fun line hline =>
      lines_feed_of_not_break (not_break_of_legible (legible_ofPolicy hinterfaces hdestinations line hline))
  rw [Policy.ruleset, lines_toString, List.map_eq_flatMap, List.flatMap_def, List.flatMap_def,
    List.map_congr_left hsingle]

/-! ## Destinations within their rule -/

def ruleText (destination : String) : List Char :=
  (destinationRule destination).toString.toList

/-- The lines of the rules for some destinations. -/
def linesFor (destinations : List String) : List (List Char) :=
  Text.lines (Ruleset.toString (destinations.map (fun d => .rule (destinationRule d)))).toList

/-- A destination stays within its rule: the rule is a single line of eight words, the last of which is the
destination; and in every ruleset that names it, that line stands between the lines in front of it and those of
the later destinations. -/
structure Confined (destination : String) : Prop where
  line : Text.lines (ruleText destination) = [ruleText destination]
  words : Text.wordsOf (ruleText destination)
    = ["pass", "out", "quick", (Family.ofDestination destination).toString, "from", "any", "to", destination]
  alone : ∀ (p : Policy) (before after : List String), p.destinations = before ++ destination :: after →
    Text.lines p.ruleset.toList
      = Text.lines (Policy.ruleset { p with destinations := before }).toList
        ++ ruleText destination :: linesFor after

theorem toString_destinationRule (destination : String) :
    (Line.rule (destinationRule destination)).toString.toList = ruleText destination := by
  rfl

theorem words_destinationRule (destination : String) :
    (destinationRule destination).words
      = ["pass", "out", "quick", (Family.ofDestination destination).toString, "from", "any", "to", destination] := by
  rfl

theorem isWord_of_mem_destinationRule
    {destination word : String}
    (hdestination : IsWord destination)
    (hword : word ∈ (destinationRule destination).words) :
    IsWord word := by
  have hkeywords : ∀ word ∈ ["pass", "out", "quick", "from", "any", "to"], IsWord word := by
    decide
  have hfamily : ∀ family : Family, IsWord family.toString := by
    rintro (_ | _) <;> decide
  have hcases : word ∈ ["pass", "out", "quick", "from", "any", "to"]
      ∨ word = (Family.ofDestination destination).toString ∨ word = destination := by
    rw [words_destinationRule] at hword
    grind
  rcases hcases with hkeyword | rfl | rfl
  · exact hkeywords word hkeyword
  · exact hfamily _
  · exact hdestination

/-- The rules for the last destinations of a policy are the last lines of its ruleset. -/
theorem ofPolicy_append
    {p : Policy} {before after : List String}
    (h : p.destinations = before ++ after) :
    ofPolicy p = ofPolicy { p with destinations := before }
      ++ after.map (fun d => .rule (destinationRule d)) := by
  simp [ofPolicy, rulesOf, h, Function.comp_def]

/-- The lines of a ruleset without destinations: five that are always there, and those of the traffic that is let
through as a whole. -/
theorem length_ofPolicy
    {p : Policy} (h : p.destinations = []) :
    (ofPolicy p).length
      = 5 + (if p.allow.privateNetwork then 8 else 0) + (if p.allow.icmp then 1 else 0) := by
  have hnetworks : privateNetworkRules.length = 8 := by
    decide
  rw [ofPolicy, List.length_append, List.length_map, rulesOf_eq, exceptions, h]
  split <;> split <;> simp [hnetworks, icmpRules]

/-- Where no name of a policy holds a blank, its destinations have one line each, behind all others. -/
theorem lines_ruleset_destinations
    {p : Policy}
    (hinterfaces : ∀ interface ∈ p.interfaces, Unblank interface)
    (hdestinations : ∀ destination ∈ p.destinations, Unblank destination) :
    ∃ front, Text.lines p.ruleset.toList = front ++ p.destinations.map ruleText
      ∧ front.length = 5 + (if p.allow.privateNetwork then 8 else 0) + (if p.allow.icmp then 1 else 0) := by
  refine ⟨(ofPolicy { p with destinations := [] }).map (fun line => line.toString.toList), ?_, ?_⟩
  · rw [lines_ruleset hinterfaces hdestinations, ofPolicy_append (p.destinations.nil_append).symm,
      List.map_append, List.map_map]
    rfl
  · rw [List.length_map, length_ofPolicy rfl]

/-- A destination stays within its rule if and only if it is a word. -/
theorem confined_iff
    {destination : String} :
    Confined destination ↔ IsWord destination := by
  constructor
  · intro h
    have hlast : destination ∈ Text.wordsOf (ruleText destination) := by
      rw [h.words]
      simp
    exact Text.isWord_of_mem_wordsOf hlast
  · intro hword
    have hlegible : (Line.rule (destinationRule destination)).Legible := hword.2
    have hbreak := not_break_of_legible hlegible
    rw [toString_destinationRule] at hbreak
    have htext : ruleText destination = (Text.joinWith " " (destinationRule destination).words).toList :=
      congrArg String.toList (Rule.toString_eq hlegible)
    refine ⟨Text.lines_of_not_break ?_ hbreak, ?_, ?_⟩
    · simp [htext, words_destinationRule, Text.joinWith]
    · rw [htext, Text.wordsOf_joinWith (by simp [words_destinationRule])
        (fun word => isWord_of_mem_destinationRule hword), words_destinationRule]
    · intro p before after hdestinations
      rw [Policy.ruleset, lines_toString, ofPolicy_append hdestinations, List.flatMap_append, ← lines_toString,
        List.map_cons, List.flatMap_cons, ← lines_toString, toString_destinationRule,
        lines_feed_of_not_break hbreak, List.singleton_append, linesFor, Policy.ruleset]

end Ruleset

/-! ## Literal addresses -/

namespace Address

/-- The zone of an address; only an IPv6 address may have one. -/
def Literal.zone : Literal → Option (List Char)
  | .v4 _ => none
  | .v6 v => v.zone

/-- An address is a word but for its zone. -/
theorem Literal.isWord_iff
    {v : String} {a : Literal}
    (h : Literal.ofString? v = some a) :
    IsWord v ↔ ∀ zone, a.zone = some zone → ∀ c ∈ zone, Text.isBlank c = false := by
  unfold Literal.ofString? at h
  split at h
  · rename_i v4 hv4
    obtain rfl := Option.some.inj h
    have hchars := isBodyChar_of_v4 hv4
    refine ⟨fun _ zone hzone => by contradiction, fun _ => ⟨?_, fun c hc => ?_⟩⟩
    · rw [V4.ofChars?_eq_some_iff.1 hv4]
      exact v4.toChars_ne_nil
    · exact not_blank_of_isBodyChar (hchars c hc)
  · obtain ⟨v6, hv6, rfl⟩ := Option.map_eq_some_iff.1 h
    obtain ⟨body, hbody, hcolon, ⟨hzone, htext⟩ | ⟨zone, hzone, htext⟩⟩ := V6.cases_ofChars hv6
    · rw [IsWord, htext]
      refine ⟨fun _ zone hsome => ?_, fun _ => ⟨List.ne_nil_of_mem hcolon, fun c hc => ?_⟩⟩
      · rw [Literal.zone, hzone] at hsome
        contradiction
      · exact not_blank_of_isBodyChar (hbody c hc)
    · rw [IsWord, htext, Literal.zone, hzone]
      constructor
      · rintro ⟨-, hunblank⟩ _ ⟨⟩ c hc
        exact hunblank c (by simp [hc])
      · intro hunblank
        refine ⟨by simp, fun c hc => ?_⟩
        rcases List.mem_append.1 hc with hc | hc
        · exact not_blank_of_isBodyChar (hbody c hc)
        · rcases List.mem_cons.1 hc with rfl | hc
          · rfl
          · exact hunblank zone rfl c hc

end Address

namespace Ruleset

/-- A literal address stays within its rule if and only if no blank stands in its zone. -/
theorem literal_confined_iff
    {v : String} {a : Literal}
    (h : Literal.ofString? v = some a) :
    Confined v ↔ ∀ zone, a.zone = some zone → ∀ c ∈ zone, Text.isBlank c = false := by
  rw [confined_iff, Literal.isWord_iff h]

/-- So does a link-local address with the name of an interface as its zone. -/
theorem linkLocal_confined :
    (∃ a, Literal.ofString? "fe80::1%en0" = some a ∧ a.zone = some "en0".toList) ∧ Confined "fe80::1%en0" := by
  have hread : (Literal.ofString? "fe80::1%en0").bind Literal.zone = some "en0".toList := by
    decide +kernel
  obtain ⟨a, ha, hzone⟩ := Option.bind_eq_some_iff.1 hread
  refine ⟨⟨a, ha, hzone⟩, (literal_confined_iff ha).2 (fun zone hsome => ?_)⟩
  obtain rfl : "en0".toList = zone := Option.some.inj (hzone.symm.trans hsome)
  exact (show IsWord "en0" by decide).2

/-- An address with a rule in its zone. -/
def injectedAddress : String :=
  "fe80::1%en0\npass out all"

/-- It is taken as a literal address, and its rule is two lines, the second of which passes all. -/
theorem injectedAddress_passes_all :
    isLiteral injectedAddress = true
      ∧ Text.lines (ruleText injectedAddress)
        = ["pass out quick inet6 from any to fe80::1%en0".toList, "pass out all".toList]
      ∧ ¬ Confined injectedAddress := by
  refine ⟨by decide +kernel, by decide +kernel, ?_⟩
  rw [confined_iff]
  decide

end Ruleset
end Killswitch
