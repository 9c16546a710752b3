import Killswitch.Proofs.Endpoint.Grammar
import Killswitch.Proofs.Policy.Merging
import Killswitch.Proofs.Ruleset.SingleLine

/-!
# What a client configuration writes into a ruleset

A client configuration comes from somebody else, and what it names ends up in a ruleset. Whatever bytes a file
has, its tokens are words. A token that is a literal address becomes a destination as it is, and so its zone is
without blanks as well. Every other token is looked up, and then it is the resolver that is relied on.

**The resolver.** An address is cut at its zone. What is left of a word is a word, unless the zone is all there
is.

**Results.**
* `Endpoint.IsToken`, `isToken_of_mem_ofBytes`, `isToken_of_mem_hostsAt`: the tokens of a file, and of all that
  a path leads to;
* `AnswersInWords`, `isWord_before`: what the resolver is relied on for;
* `isWord_of_extract`: the destinations of files are words;
* `Policy.destinations_of_build`: what a policy is made of that asks for nothing but its sources;
* `files_confined`: no client configuration gets out of its rules.
-/

namespace Killswitch

open Killswitch.Action
open Text (IsWord isBlank isLineBreak)

/-! ## Tokens -/

namespace Endpoint

/-- A token: at least four characters, none of which is a blank or a line break. -/
structure IsToken (token : String) : Prop where
  length : 4 ≤ token.toList.length
  unblank : ∀ c ∈ token.toList, isBlank c = false
  unbroken : ∀ c ∈ token.toList, isLineBreak c = false

/-- A text of at least four characters is not empty, so a token is a word. -/
theorem IsToken.isWord
    {token : String} (h : IsToken token) :
    IsWord token := by
  refine ⟨fun hempty => ?_, h.unblank⟩
  have hlength := h.length
  rw [hempty] at hlength
  contradiction

/-- By either grammar the host of a line is a token. -/
theorem Names.isToken
    {line host : List Char} (h : Names line host) :
    IsToken (String.ofList host) := by
  have hhost : 4 ≤ host.length ∧ ∀ c ∈ host, isBlank c = false := by
    cases h with
    | remote hremote =>
        exact ⟨hremote.length_host, hremote.host_unblank⟩
    | endpoint hendpoint =>
        cases hendpoint.host_written with
        | bracketed _ hlength hall =>
            exact ⟨hlength, fun c hc => (hall c hc).2⟩
        | bare _ hlength hall =>
            exact ⟨hlength, fun c hc => (hall c hc).1⟩
  obtain ⟨hlength, hunblank⟩ := hhost
  rw [← String.toList_ofList (l := host)] at hlength hunblank
  exact ⟨hlength, hunblank, fun c hc => Text.not_break_of_not_blank (hunblank c hc)⟩

section Files

variable {h : Host} {token : String} {tokens : List String}

/-- Whatever the bytes of a file are, it names tokens. -/
theorem isToken_of_mem_ofBytes
    {bytes : List UInt8} (hmem : token ∈ ofBytes bytes) :
    IsToken token := by
  obtain ⟨line, -, hline⟩ := List.mem_filterMap.1 hmem
  obtain ⟨host, hhost, rfl⟩ := Option.map_eq_some_iff.1 hline
  exact (ofLine?_eq_some_iff.1 hhost).isToken

theorem isToken_of_mem_hostsOfFile
    {path : Path} (htokens : hostsOfFile h path = .ok tokens) (hmem : token ∈ tokens) :
    IsToken token := by
  unfold hostsOfFile at htokens
  split at htokens
  · obtain rfl := Except.ok.inj htokens
    exact isToken_of_mem_ofBytes hmem
  · contradiction
  · contradiction

/-- What is read from a path are tokens, also where the path leads to a directory. -/
theorem isToken_of_mem_hostsAt
    {path : String} (htokens : hostsAt h path = .ok tokens) (hmem : token ∈ tokens) :
    IsToken token := by
  obtain ⟨place, -, htokens⟩ := bind_eq_ok_iff.1 htokens
  split at htokens
  · contradiction
  · exact isToken_of_mem_hostsOfFile htokens hmem
  · split at htokens
    · contradiction
    · obtain ⟨lists, hlists, rfl⟩ := map_eq_ok_iff.1 htokens
      obtain ⟨list, hlist, hin⟩ := List.mem_flatten.1 hmem
      obtain ⟨file, -, hfile⟩ := mem_of_mapM hlists hlist
      exact isToken_of_mem_hostsOfFile hfile hin

end Files

end Endpoint

/-! ## Destinations -/

namespace Source

/-- The resolver answers in words, none of which is a zone only. -/
def AnswersInWords (h : Host) : Prop :=
  ∀ name answer, h.addresses name = .ok answer →
    ∀ address ∈ answer, IsWord address ∧ address.toList.head? ≠ some '%'

/-- A word without its zone is a word, unless it starts with its zone. -/
theorem isWord_before
    {address : String}
    (hword : IsWord address) (hhead : address.toList.head? ≠ some '%') :
    IsWord (Text.before '%' address) := by
  rw [IsWord, Text.before, String.toList_ofList]
  constructor
  · obtain ⟨c, rest, haddress⟩ := List.exists_cons_of_ne_nil hword.1
    have hc : c ≠ '%' := by
      rintro rfl
      rw [haddress] at hhead
      exact hhead rfl
    rw [haddress, Text.cutAt, if_neg hc]
    exact List.cons_ne_nil c _
  · exact fun c hc => hword.2 c ((Text.cutAt_fst_prefix '%' address.toList).subset hc)

section Destinations

variable {h : Host} {item : String} {sources : List Source} {addresses : List String}

theorem isWord_of_resolution
    (hanswers : AnswersInWords h) (hresolution : resolution h item = .ok addresses) :
    ∀ a ∈ addresses, IsWord a := by
  obtain ⟨answer, hanswer, rfl⟩ := exists_answer_of_resolution hresolution
  intro a ha
  obtain ⟨address, hmem, rfl⟩ := List.mem_map.1 ha
  obtain ⟨hword, hhead⟩ := hanswers item answer hanswer address hmem
  exact isWord_before hword hhead

/-- A word contributes words: itself if it is a literal address, or else what the resolver answers. -/
theorem isWord_of_contribution
    (hanswers : AnswersInWords h) (hitem : IsWord item)
    (hcontribution : contribution h (.ok item) = .ok addresses) :
    ∀ a ∈ addresses, IsWord a := by
  by_cases hliteral : Address.isLiteral item = true
  · rw [contribution_literal hliteral] at hcontribution
    obtain rfl := Except.ok.inj hcontribution
    simpa using hitem
  · rw [contribution_name hliteral] at hcontribution
    exact isWord_of_resolution hanswers hcontribution

/-- The items of a file are words. -/
theorem isWord_of_mem_expansion
    {s : Source} (hfile : s.kind = .file) (hmem : .ok item ∈ expansion h s) :
    IsWord item := by
  unfold expansion at hmem
  rw [hfile] at hmem
  dsimp only at hmem
  split at hmem
  · rename_i tokens htokens
    have hitem : item ∈ tokens := by
      simpa using hmem
    exact (Endpoint.isToken_of_mem_hostsAt htokens hitem).isWord
  · simp at hmem

/-- The destinations of files are words. -/
theorem isWord_of_extract
    (hanswers : AnswersInWords h) (hfiles : ∀ s ∈ sources, s.kind = .file)
    (hextract : answer (extract sources) h = .ok addresses) :
    ∀ a ∈ addresses, IsWord a := by
  intro a ha
  obtain ⟨s, hs, item, list, hmem, hcontribution, hin⟩ := exists_contribution_of_extract hextract ha
  exact isWord_of_contribution hanswers (isWord_of_mem_expansion (hfiles s hs) hmem) hcontribution a hin

end Destinations

end Source

/-! ## Rulesets from files -/

namespace Policy

variable {o : Options} {h : Host} {p : Policy}

/-- A policy has the destinations of its sources and no interface, if none is named and no tunnel is looked
for. -/
theorem destinations_of_build
    (hinterfaces : o.interfaces = []) (hrouting : o.useRouting = false)
    (hp : answer (build o) h = .ok p) :
    p.interfaces = [] ∧ answer (Source.extract o.sources) h = .ok p.destinations := by
  obtain ⟨destinations, tunnel, hextract, hsought, rfl⟩ := exists_assembled hp
  obtain rfl : ⟨"", ""⟩ = tunnel := by
    rw [sought, hrouting] at hsought
    exact Except.ok.inj hsought
  have hnone : named "" = [] := rfl
  constructor
  · rw [assembled, hinterfaces, hnone]
    rfl
  · rw [hextract, assembled, hnone, List.append_nil, List.append_nil]
    exact congrArg Except.ok (Source.of_answer_extract hextract).symm

end Policy

namespace Source

/-- Whatever bytes the files of a host have, what is read from them are tokens. If the resolver answers in
words, each destination of files stays within its rule. So the ruleset of a policy that is made from files only
ends with one line for each destination, behind five lines that are always there and those of the traffic that
is let through as a whole. -/
theorem files_confined (m : Machine) :
    (∀ path tokens, (Endpoint.ofPath path m).1 = .ok tokens → ∀ token ∈ tokens, Endpoint.IsToken token)
      ∧ (AnswersInWords m.host →
          (∀ sources destinations,
            (∀ s ∈ sources, s.kind = .file) →
            (extract sources m).1 = .ok destinations →
            ∀ d ∈ destinations, Ruleset.Confined d)
          ∧ (∀ o p,
            (∀ s ∈ o.sources, s.kind = .file) →
            o.interfaces = [] →
            o.useRouting = false →
            (Policy.build o m).1 = .ok p →
            ∃ front,
              Text.lines p.ruleset.toList = front ++ p.destinations.map Ruleset.ruleText
                ∧ front.length
                    = 5 + (if p.allow.privateNetwork then 8 else 0) + (if p.allow.icmp then 1 else 0)
                ∧ ∀ d ∈ p.destinations, Ruleset.Confined d)) := by
  refine ⟨fun path tokens htokens => ?_, fun hanswers =>
    ⟨fun sources destinations hfiles hextract d hd => ?_, fun o p hfiles hinterfaces hrouting hp => ?_⟩⟩
  · rw [(Endpoint.ofPath_consults path).run m, Endpoint.answer_ofPath] at htokens
    exact fun token => Endpoint.isToken_of_mem_hostsAt htokens
  · rw [(extract_consults sources).run m] at hextract
    exact Ruleset.confined_iff.2 (isWord_of_extract hanswers hfiles hextract d hd)
  · rw [(Policy.build_consults o).run m] at hp
    obtain ⟨hnone, hextract⟩ := Policy.destinations_of_build hinterfaces hrouting hp
    have hwords := isWord_of_extract hanswers hfiles hextract
    have hunnamed : ∀ interface ∈ p.interfaces, Unblank interface := by
      simp [hnone]
    obtain ⟨front, hlines, hlength⟩ :=
      Ruleset.lines_ruleset_destinations hunnamed (fun d hd => (hwords d hd).2)
    exact ⟨front, hlines, hlength, fun d hd => Ruleset.confined_iff.2 (hwords d hd)⟩

/-- A host with a client configuration, and a resolver that knows the server of it. -/
def configuredHost : Host :=
  { Lock.obligingHost with
    files := ⟨[(["vpn", "home.conf"], .file ("remote vpn.example 1194".toList.map (·.toNat.toUInt8)) none)]⟩
    resolver := [("vpn.example", .ok ["fe80::7%en0", "192.0.2.9"])] }

def fileOptions : Options :=
  ⟨⟨false, false, false, true⟩, [], [⟨.file, "/vpn"⟩], false, ""⟩

def filePolicy : Policy :=
  .of ⟨false, false, false, true⟩ [] ["fe80::7", "192.0.2.9"] ""

theorem configuredHost_answers :
    AnswersInWords configuredHost := by
  intro name answer hanswer address hmem
  obtain ⟨-, rfl⟩ : name = "vpn.example" ∧ answer = ["fe80::7%en0", "192.0.2.9"] := by
    simpa [configuredHost] using mem_resolver_of_addresses hanswer
  rcases List.mem_pair.1 hmem with rfl | rfl
  · decide
  · decide

theorem configuredHost_build :
    (Policy.build fileOptions (.ofHost configuredHost)).1 = .ok filePolicy :=
  toOption_eq_some_iff.1 (by decide +kernel)

theorem configuredHost_confined :
    (Policy.build fileOptions (.ofHost configuredHost)).1 = .ok filePolicy
      ∧ ∃ front, Text.lines filePolicy.ruleset.toList
          = front ++ ["pass out quick inet6 from any to fe80::7".toList,
              "pass out quick inet from any to 192.0.2.9".toList]
        ∧ front.length = 6 := by
  obtain ⟨front, hlines, hlength, -⟩ := ((files_confined (.ofHost configuredHost)).2 configuredHost_answers).2
    fileOptions filePolicy (by decide) rfl rfl configuredHost_build
  exact ⟨configuredHost_build, front, hlines, hlength⟩

end Source
end Killswitch
