import Mathlib
import Killswitch.Endpoint.Line
import Killswitch.Proofs.Text.Runs

/-!
# The grammar of lines that name a host

Two grammars say which lines name a host. A line of either kind is a concatenation of parts, each of which
is told by what it holds and not by how it is found. The reader takes the longest part each time, and never
goes back. This finds the host whenever a line has the parts of one of the grammars, since each part ends
where no longer one could.

**The grammars.**
* `remote`, a gap, and the host, which ends at a blank or at the end of the line;
* `endpoint` in letters of either case, an equals sign between gaps, the host with or without brackets, a
  colon, digits, and at the end a gap, a comment and a line feed, each of which may be missing.

**Results.**
* `after?_eq_some_iff`, `host?_eq_some_iff`, `endsLine_iff`: the parts that are read;
* `remote?_eq_some_iff`, `endpoint?_eq_some_iff`: the lines of either kind;
* `line_reads_grammar`: the host of a line is the one that the grammars give it, and there is only one.
-/

namespace Killswitch
namespace Endpoint

open Text (isBlank isDigit Opens opens_iff)

/-! ## The grammars -/

/-- A gap: a text of blanks. -/
def IsGap (s : List Char) : Prop :=
  ∀ c ∈ s, isBlank c = true

/-- A character that may stand for a small letter of a keyword. The letter i may also be written with a dot
above the capital, or without the dot. -/
def MayStandFor (letter c : Char) : Prop :=
  c = letter ∨ c = letter.toUpper ∨ letter = 'i' ∧ (c = 'İ' ∨ c = 'ı')

/-- A keyword, written in letters of either case. -/
def WrittenAs (keyword word : List Char) : Prop :=
  List.Forall₂ MayStandFor keyword word

/-- A host as it is written in front of its port: between brackets, or by itself if it holds no bracket and
no colon. -/
inductive WrittenHost : (written host : List Char) → Prop
  | bracketed (host : List Char) :
      4 ≤ host.length → (∀ c ∈ host, c ≠ ']' ∧ isBlank c = false) →
      WrittenHost ('[' :: host ++ [']']) host
  | bare (host : List Char) :
      4 ≤ host.length → (∀ c ∈ host, isBlank c = false ∧ c ≠ ':' ∧ c ≠ '[' ∧ c ≠ ']') →
      WrittenHost host host

/-- A comment within a line, or none. -/
inductive IsComment : List Char → Prop
  | none : IsComment []
  | text (s : List Char) : '\n' ∉ s → IsComment ('#' :: s)

/-- One line feed, or none. -/
def IsFinalBreak (s : List Char) : Prop :=
  s = [] ∨ s = ['\n']

/-- What may stand behind the port: a gap, a comment and a line feed. -/
def IsTail (s : List Char) : Prop :=
  ∃ gap comment final, s = gap ++ comment ++ final ∧ IsGap gap ∧ IsComment comment ∧ IsFinalBreak final

/-- A line that names a host behind the word `remote`. -/
structure IsRemote (line host margin gap rest : List Char) : Prop where
  text : line = margin ++ "remote".toList ++ gap ++ host ++ rest
  margin_gap : IsGap margin
  gap_gap : IsGap gap
  gap_ne_nil : gap ≠ []
  length_host : 4 ≤ host.length
  host_unblank : ∀ c ∈ host, isBlank c = false
  rest_blank : ∀ c ∈ rest.head?, isBlank c = true

/-- A line that names a host and its port behind the word `endpoint` and an equals sign. -/
structure IsEndpoint (line host margin word before after written port tail : List Char) : Prop where
  text : line = margin ++ word ++ before ++ '=' :: after ++ written ++ ':' :: port ++ tail
  margin_gap : IsGap margin
  word_written : WrittenAs "endpoint".toList word
  before_gap : IsGap before
  after_gap : IsGap after
  host_written : WrittenHost written host
  port_ne_nil : port ≠ []
  port_digits : ∀ c ∈ port, isDigit c = true
  tail_tail : IsTail tail

/-- A line names a host by one of the grammars. -/
inductive Names (line host : List Char) : Prop
  | remote {margin gap rest : List Char} :
      IsRemote line host margin gap rest → Names line host
  | endpoint {margin word before after written port tail : List Char} :
      IsEndpoint line host margin word before after written port tail → Names line host

/-! ## The parts of a line -/

section Parts

variable {s rest host : List Char}

theorem usable?_eq_some_iff
    {text : List Char} :
    usable? text = some host ↔ text = host ∧ 4 ≤ host.length := by
  unfold usable? leastLength
  split
  · rename_i hlong
    constructor
    · rintro ⟨⟩
      exact ⟨rfl, hlong⟩
    · rintro ⟨rfl, -⟩
      rfl
  · rename_i hshort
    constructor
    · rintro ⟨⟩
    · rintro ⟨rfl, hlong⟩
      exact absurd hlong hshort

/-- A usable host has a first character. -/
theorem exists_first
    (hlong : 4 ≤ host.length) :
    ∃ first more, host = first :: more :=
  List.exists_cons_of_length_pos (by omega)

theorem after?_eq_some_iff
    {same : Char → Char → Bool} {keyword : List Char} :
    after? same keyword s = some rest
      ↔ ∃ word, s = word ++ rest ∧ List.Forall₂ (fun k c => same k c = true) keyword word := by
  induction keyword generalizing s with
  | nil =>
      simp [after?]
  | cons k keyword ih =>
      cases s with
      | nil =>
          simp [after?]
      | cons c s =>
          rw [after?]
          constructor
          · intro h
            split at h
            · rename_i hsame
              obtain ⟨word, rfl, hword⟩ := ih.1 h
              exact ⟨c :: word, rfl, .cons hsame hword⟩
            · contradiction
          · rintro ⟨word, htext, hword⟩
            cases hword with
            | cons hsame hword =>
                obtain ⟨rfl, rfl⟩ := List.cons.inj htext
                rw [if_pos hsame]
                exact ih.2 ⟨_, rfl, hword⟩

theorem afterBlanks?_eq_some_iff :
    afterBlanks? s = some rest ↔ ∃ gap, gap ≠ [] ∧ Opens isBlank s gap rest := by
  cases s with
  | nil =>
      constructor
      · rintro ⟨⟩
      · rintro ⟨gap, hne, hopens⟩
        exact absurd hopens.takeWhile_eq.symm hne
  | cons c s =>
      rw [afterBlanks?]
      split
      · rename_i hblank
        have htaken : (c :: s).takeWhile isBlank = c :: s.takeWhile isBlank := by
          simp [hblank]
        have hleft : (c :: s).dropWhile isBlank = s.dropWhile isBlank := by
          simp [hblank]
        simp only [opens_iff, htaken, hleft, Option.some.injEq]
        constructor
        · rintro rfl
          exact ⟨_, List.cons_ne_nil _ _, rfl, rfl⟩
        · rintro ⟨gap, -, -, hrest⟩
          exact hrest
      · rename_i hunblank
        constructor
        · rintro ⟨⟩
        · rintro ⟨gap, hne, hopens⟩
          have hnone : (c :: s).takeWhile isBlank = [] := by
            simp [hunblank]
          exact absurd (hopens.takeWhile_eq.symm.trans hnone) hne

end Parts

/-! ## Keywords -/

section Keywords

variable {s rest : List Char}

theorem after?_exact_iff
    {keyword : List Char} :
    after? (fun k c => k == c) keyword s = some rest ↔ s = keyword ++ rest := by
  simp [after?_eq_some_iff]

/-- The letters of a keyword are compared without regard to their case. -/
theorem sameLetter_iff
    {letter c : Char} (hsmall : letter.isLower = true) :
    sameLetter letter c = true ↔ MayStandFor letter c := by
  have hcase : c.toLower = letter ↔ c = letter ∨ c = letter.toUpper := by
    constructor
    · rintro rfl
      by_cases hc : c.isLower = true
      · exact .inl (Char.toLower_eq_of_not_isUpper (Char.not_isUpper_of_isLower hc)).symm
      · right
        rw [Char.toUpper_toLower_eq_toUpper, Char.toUpper_eq_of_not_isLower hc]
    · have hletter := Char.toLower_eq_of_not_isUpper (Char.not_isUpper_of_isLower hsmall)
      rintro (rfl | rfl)
      · exact hletter
      · rw [Char.toLower_toUpper_eq_toLower, hletter]
  simp only [sameLetter, MayStandFor, Bool.or_eq_true, Bool.and_eq_true, beq_iff_eq, hcase]
  tauto

theorem after?_sameLetter_iff
    {keyword : List Char} (hsmall : ∀ k ∈ keyword, k.isLower = true) :
    after? sameLetter keyword s = some rest ↔ ∃ word, s = word ++ rest ∧ WrittenAs keyword word := by
  have hletters : ∀ word, List.Forall₂ (fun k c => sameLetter k c = true) keyword word
      ↔ WrittenAs keyword word := by
    intro word
    induction keyword generalizing word with
    | nil =>
        simp [WrittenAs]
    | cons k keyword ih =>
        have hmore := ih (fun l hl => hsmall l (List.mem_cons_of_mem k hl))
        simp only [WrittenAs, List.forall₂_cons_left_iff, sameLetter_iff (hsmall k List.mem_cons_self)]
        exact exists_congr (fun c => exists_congr (fun more => by rw [hmore, WrittenAs]))
  simp only [after?_eq_some_iff, hletters]

end Keywords

/-! ## Hosts -/

section Hosts

variable {s rest host written : List Char}

theorem isBracketed_iff
    {c : Char} :
    isBracketed c = true ↔ c ≠ ']' ∧ isBlank c = false := by
  simp [isBracketed]

theorem isBare_iff
    {c : Char} :
    isBare c = true ↔ isBlank c = false ∧ c ≠ ':' ∧ c ≠ '[' ∧ c ≠ ']' := by
  simp [isBare, and_assoc]

/-- A host is not written with a blank in front. -/
theorem WrittenHost.head
    (h : WrittenHost written host) (rest : List Char) :
    ∀ c ∈ (written ++ rest).head?, isBlank c = false := by
  cases h with
  | bracketed =>
      rintro c ⟨⟩
      decide
  | bare _ hlong hall =>
      obtain ⟨first, more, rfl⟩ := exists_first hlong
      rintro c ⟨⟩
      exact (hall first List.mem_cons_self).1

theorem host?_of_not_bracket
    (h : s.head? ≠ some '[') :
    host? s = (usable? (s.takeWhile isBare)).map (·, s.dropWhile isBare) := by
  unfold host?
  split
  · exact absurd rfl h
  · rfl

/-- The host in front of a colon. -/
theorem host?_eq_some_iff :
    host? s = some (host, ':' :: rest) ↔ ∃ written, s = written ++ ':' :: rest ∧ WrittenHost written host := by
  constructor
  · intro h
    by_cases hbracket : s.head? = some '['
    · obtain ⟨s, rfl⟩ : ∃ t, s = '[' :: t := List.head?_eq_some_iff.1 hbracket
      rw [host?] at h
      split at h
      · rename_i behind hbehind
        obtain ⟨text, htext, hpair⟩ := Option.map_eq_some_iff.1 h
        obtain ⟨rfl, rfl⟩ := Prod.mk.inj hpair
        obtain ⟨htaken, hlong⟩ := usable?_eq_some_iff.1 htext
        have hopens := opens_iff.2 ⟨htaken, hbehind⟩
        refine ⟨_, ?_, .bracketed text hlong (fun c hc => isBracketed_iff.1 (hopens.all c hc))⟩
        rw [hopens.text]
        simp
      · contradiction
    · rw [host?_of_not_bracket hbracket] at h
      obtain ⟨text, htext, hpair⟩ := Option.map_eq_some_iff.1 h
      obtain ⟨rfl, hbehind⟩ := Prod.mk.inj hpair
      obtain ⟨htaken, hlong⟩ := usable?_eq_some_iff.1 htext
      have hopens := opens_iff.2 ⟨htaken, hbehind⟩
      exact ⟨text, hopens.text, .bare text hlong (fun c hc => isBare_iff.1 (hopens.all c hc))⟩
  · rintro ⟨written, rfl, hwritten⟩
    cases hwritten with
    | bracketed _ hlong hall =>
        have hopens : Opens isBracketed (host ++ ']' :: ':' :: rest) host (']' :: ':' :: rest) :=
          ⟨rfl, fun c hc => isBracketed_iff.2 (hall c hc), by simp [isBracketed]⟩
        have htext : '[' :: host ++ [']'] ++ ':' :: rest = '[' :: (host ++ ']' :: ':' :: rest) := by
          simp
        rw [htext, host?, hopens.dropWhile_eq, hopens.takeWhile_eq, usable?_eq_some_iff.2 ⟨rfl, hlong⟩]
        rfl
    | bare _ hlong hall =>
        have hopens : Opens isBare (host ++ ':' :: rest) host (':' :: rest) :=
          ⟨rfl, fun c hc => isBare_iff.2 (hall c hc), by simp [isBare]⟩
        have hfirst : (host ++ ':' :: rest).head? ≠ some '[' := by
          obtain ⟨first, more, rfl⟩ := exists_first hlong
          rintro ⟨⟩
          exact (hall '[' List.mem_cons_self).2.2.1 rfl
        rw [host?_of_not_bracket hfirst, hopens.dropWhile_eq, hopens.takeWhile_eq,
          usable?_eq_some_iff.2 ⟨rfl, hlong⟩]
        rfl

end Hosts

/-! ## The end of a line -/

section Tails

variable {s : List Char}

/-- One line feed at the end is all that is left out. -/
theorem exists_finalBreak (s : List Char) :
    ∃ final, s = withoutFinalBreak s ++ final ∧ IsFinalBreak final := by
  unfold withoutFinalBreak
  split
  · rename_i hlast
    exact ⟨['\n'], (List.dropLast_append_getLast? _ hlast).symm, .inr rfl⟩
  · exact ⟨[], (List.append_nil s).symm, .inl rfl⟩

theorem withoutFinalBreak_append
    {final : List Char} (hs : '\n' ∉ s) (hfinal : IsFinalBreak final) :
    withoutFinalBreak (s ++ final) = s := by
  unfold withoutFinalBreak
  rcases hfinal with rfl | rfl
  · rw [List.append_nil, if_neg (fun hlast => hs (List.mem_of_getLast? hlast))]
  · rw [if_pos List.getLast?_concat, List.dropLast_concat]

theorem endsLine_iff :
    endsLine s = true ↔ IsTail s := by
  constructor
  · intro h
    unfold endsLine at h
    split at h
    · rename_i hnone
      exact ⟨s, [], [], by simp, List.dropWhile_eq_nil_iff.1 hnone, .none, .inl rfl⟩
    · rename_i comment hcomment
      obtain ⟨final, hfinal, hbreak⟩ := exists_finalBreak comment
      have hopens := opens_iff.2 ⟨rfl, hcomment⟩
      refine ⟨_, _, final, ?_, hopens.all, .text (withoutFinalBreak comment) (by simpa using h), hbreak⟩
      rw [List.append_assoc, List.cons_append, ← hfinal]
      exact hopens.text
    · contradiction
  · rintro ⟨gap, comment, final, rfl, hgap, hcomment, hfinal⟩
    unfold endsLine
    cases hcomment with
    | none =>
        have hblank : (gap ++ [] ++ final).dropWhile isBlank = [] := by
          rw [List.dropWhile_eq_nil_iff, List.append_nil]
          intro c hc
          rcases List.mem_append.1 hc with hc | hc
          · exact hgap c hc
          · rcases hfinal with rfl | rfl
            · contradiction
            · obtain rfl := List.mem_singleton.1 hc
              decide
        rw [hblank]
    | text comment hline =>
        have hstart : (gap ++ '#' :: comment ++ final).dropWhile isBlank = '#' :: (comment ++ final) := by
          have hopens : Opens isBlank (gap ++ '#' :: comment ++ final) gap ('#' :: (comment ++ final)) := by
            refine ⟨by simp, hgap, ?_⟩
            rintro c ⟨⟩
            decide
          exact hopens.dropWhile_eq
        rw [hstart]
        simpa [withoutFinalBreak_append hline hfinal] using hline

/-- The digits of a port end where the tail begins. -/
theorem IsTail.head
    (h : IsTail s) :
    ∀ c ∈ s.head?, isDigit c = false := by
  obtain ⟨gap, comment, final, rfl, hgap, hcomment, hfinal⟩ := h
  cases gap with
  | cons first gap =>
      rintro c ⟨⟩
      exact Text.isDigit_of_blank (hgap first List.mem_cons_self)
  | nil =>
      cases hcomment with
      | none =>
          rcases hfinal with rfl | rfl
          · rintro c ⟨⟩
          · rintro c ⟨⟩
            decide
      | text =>
          rintro c ⟨⟩
          decide

end Tails

/-! ## Lines -/

section Lines

variable {line host margin gap rest word before after written port tail : List Char}

theorem IsRemote.opens
    (h : IsRemote line host margin gap rest) :
    Opens isBlank line margin ("remote".toList ++ (gap ++ (host ++ rest))) := by
  refine ⟨by simp [h.text], h.margin_gap, ?_⟩
  rintro c ⟨⟩
  decide

theorem remote?_eq_some_iff :
    remote? line = some host ↔ ∃ margin gap rest, IsRemote line host margin gap rest := by
  simp only [remote?, Option.bind_eq_bind, Option.bind_eq_some_iff, after?_exact_iff,
    afterBlanks?_eq_some_iff, usable?_eq_some_iff]
  constructor
  · rintro ⟨behind, hword, start, ⟨gap, hne, hgap⟩, htaken, hlong⟩
    have hmargin := opens_iff.2 ⟨rfl, hword⟩
    have hhost := opens_iff.2 ⟨htaken, rfl⟩
    refine ⟨_, gap, start.dropWhile (fun c => !isBlank c), ?_, hmargin.all, hgap.all, hne, hlong, ?_, ?_⟩
    · rw [List.append_assoc, ← hhost.text, List.append_assoc, ← hgap.text, List.append_assoc]
      exact hmargin.text
    · simpa using hhost.all
    · simpa using hhost.ends
  · rintro ⟨margin, gap, rest, h⟩
    have hlong := h.length_host
    refine ⟨_, h.opens.dropWhile_eq, host ++ rest, ⟨gap, h.gap_ne_nil, rfl, h.gap_gap, ?_⟩, ?_, hlong⟩
    · obtain ⟨first, more, rfl⟩ := exists_first hlong
      rintro c ⟨⟩
      exact h.host_unblank first List.mem_cons_self
    · have hhost : Opens (fun c => !isBlank c) (host ++ rest) host rest :=
        ⟨rfl, by simpa using h.host_unblank, by simpa using h.rest_blank⟩
      exact hhost.takeWhile_eq

/-- A reading of an `endpoint` line, part by part. -/
theorem endpoint?_eq_some_iff_parts :
    endpoint? line = some host
      ↔ ∃ behind sign place,
          after? sameLetter "endpoint".toList (line.dropWhile isBlank) = some behind
            ∧ behind.dropWhile isBlank = '=' :: sign
            ∧ host? (sign.dropWhile isBlank) = some (host, ':' :: place)
            ∧ place.takeWhile isDigit ≠ []
            ∧ endsLine (place.dropWhile isDigit) = true := by
  constructor
  · intro h
    obtain ⟨behind, hbehind, h⟩ := Option.bind_eq_some_iff.1 h
    split at h
    · rename_i sign hsign
      obtain ⟨⟨found, place⟩, hfound, h⟩ := Option.bind_eq_some_iff.1 h
      split at h
      · rename_i found place hpair
        obtain ⟨rfl, rfl⟩ := Prod.mk.inj hpair
        split at h
        · contradiction
        · rename_i hdigits
          split at h
          · rename_i hends
            obtain rfl := Option.some.inj h
            exact ⟨behind, sign, place, hbehind, hsign, hfound, by simpa using hdigits, hends⟩
          · contradiction
      · contradiction
    · contradiction
  · rintro ⟨behind, sign, place, hbehind, hsign, hhost, hdigits, hends⟩
    have hsome : (place.takeWhile isDigit).isEmpty = false :=
      List.isEmpty_eq_false_iff.2 hdigits
    refine Option.bind_eq_some_iff.2 ⟨behind, hbehind, ?_⟩
    rw [hsign]
    refine Option.bind_eq_some_iff.2 ⟨(host, ':' :: place), hhost, ?_⟩
    simp only [hsome, hends, if_true, Bool.false_eq_true, if_false]

theorem WrittenAs.head
    (h : WrittenAs "endpoint".toList word) (rest : List Char) :
    (word ++ rest).head? = some 'e' ∨ (word ++ rest).head? = some 'E' := by
  cases h with
  | cons hfirst _ =>
      rcases hfirst with rfl | rfl | ⟨hletter, -⟩
      · exact .inl rfl
      · exact .inr rfl
      · exact absurd hletter (by decide)

theorem IsEndpoint.opens
    (h : IsEndpoint line host margin word before after written port tail) :
    Opens isBlank line margin (word ++ (before ++ '=' :: (after ++ (written ++ ':' :: (port ++ tail))))) := by
  refine ⟨by simp [h.text], h.margin_gap, ?_⟩
  intro c hc
  rcases h.word_written.head _ with hhead | hhead
  · rw [hhead] at hc
    obtain rfl := Option.some.inj hc
    decide
  · rw [hhead] at hc
    obtain rfl := Option.some.inj hc
    decide

theorem endpoint?_eq_some_iff :
    endpoint? line = some host
      ↔ ∃ margin word before after written port tail,
          IsEndpoint line host margin word before after written port tail := by
  have hsmall : ∀ k ∈ "endpoint".toList, k.isLower = true :=
    List.all_eq_true.1 (by decide)
  simp only [endpoint?_eq_some_iff_parts, after?_sameLetter_iff hsmall, host?_eq_some_iff, endsLine_iff]
  constructor
  · rintro ⟨behind, sign, place, ⟨word, hword, hwritten⟩, hsign, ⟨written, hhost, hform⟩, hdigits, htail⟩
    have hmargin := opens_iff.2 ⟨rfl, hword⟩
    have hbefore := opens_iff.2 ⟨rfl, hsign⟩
    have hafter := opens_iff.2 ⟨rfl, hhost⟩
    have hport := Opens.of_taken isDigit place
    refine ⟨_, word, _, _, written, _, _, ?_, hmargin.all, hwritten, hbefore.all, hafter.all, hform, hdigits,
      hport.all, htail⟩
    simp only [List.append_assoc, List.cons_append, ← hport.text, ← hafter.text, ← hbefore.text]
    exact hmargin.text
  · rintro ⟨margin, word, before, after, written, port, tail, h⟩
    have hbefore : Opens isBlank (before ++ '=' :: (after ++ (written ++ ':' :: (port ++ tail)))) before _ :=
      ⟨rfl, h.before_gap, by rintro c ⟨⟩; decide⟩
    have hafter : Opens isBlank (after ++ (written ++ ':' :: (port ++ tail))) after _ :=
      ⟨rfl, h.after_gap, h.host_written.head _⟩
    have hport : Opens isDigit (port ++ tail) port tail :=
      ⟨rfl, h.port_digits, h.tail_tail.head⟩
    refine ⟨_, _, port ++ tail, ⟨word, h.opens.dropWhile_eq, h.word_written⟩, hbefore.dropWhile_eq,
      ⟨written, hafter.dropWhile_eq, h.host_written⟩, ?_, ?_⟩
    · rw [hport.takeWhile_eq]
      exact h.port_ne_nil
    · rw [hport.dropWhile_eq]
      exact h.tail_tail

/-- No line is of both kinds, since their words start with different letters. -/
theorem not_isEndpoint_of_isRemote
    {other margin' : List Char}
    (hremote : IsRemote line host margin gap rest) :
    ¬ IsEndpoint line other margin' word before after written port tail := by
  intro hendpoint
  have hsame := hremote.opens.dropWhile_eq.symm.trans hendpoint.opens.dropWhile_eq
  have hfirst : some 'r' = _ := congrArg List.head? hsame
  rcases hendpoint.word_written.head _ with hhead | hhead
  · rw [hhead] at hfirst
    exact absurd hfirst (by decide)
  · rw [hhead] at hfirst
    exact absurd hfirst (by decide)

theorem ofLine?_eq_some_iff :
    ofLine? line = some host ↔ Names line host := by
  unfold ofLine?
  constructor
  · intro h
    split at h
    · rename_i found hfound
      obtain rfl := Option.some.inj h
      obtain ⟨margin, gap, rest, hremote⟩ := remote?_eq_some_iff.1 hfound
      exact .remote hremote
    · obtain ⟨margin, word, before, after, written, port, tail, hendpoint⟩ := endpoint?_eq_some_iff.1 h
      exact .endpoint hendpoint
  · intro h
    cases h with
    | remote hremote =>
        rw [remote?_eq_some_iff.2 ⟨_, _, _, hremote⟩]
    | endpoint hendpoint =>
        split
        · rename_i found hfound
          obtain ⟨margin, gap, rest, hremote⟩ := remote?_eq_some_iff.1 hfound
          exact absurd hendpoint (not_isEndpoint_of_isRemote hremote)
        · exact endpoint?_eq_some_iff.2 ⟨_, _, _, _, _, _, _, hendpoint⟩

end Lines

/-- The reader gives a host to a line if and only if one of the grammars does, and it is the same one. However
a line is taken apart by the grammars, its host is the same, and a line to which they give none names none. -/
theorem line_reads_grammar (line : List Char) :
    (∀ host, ofLine? line = some host ↔ Names line host)
      ∧ (∀ host other, Names line host → Names line other → host = other)
      ∧ (ofLine? line = none ↔ ∀ host, ¬ Names line host) := by
  refine ⟨fun host => ofLine?_eq_some_iff, ?_, ?_⟩
  · intro host other hhost hother
    have hsame := (ofLine?_eq_some_iff.2 hhost).symm.trans (ofLine?_eq_some_iff.2 hother)
    exact Option.some.inj hsame
  · rw [Option.eq_none_iff_forall_ne_some]
    exact forall_congr' (fun host => not_congr ofLine?_eq_some_iff)

example :
    ofLine? "\tENDPOİNT= [2001:db8::1]:51820 # home\n".toList = some "2001:db8::1".toList := by
  decide

end Endpoint
end Killswitch
