import Killswitch.Proofs.Ruleset.Filter

/-!
# The text of a ruleset is read back

The lines of a ruleset are texts of words with single blanks between them. Where its names hold no blank,
the filter finds these words again, and reads from them the line that was written.

**Names.** A name at the end of a rule, or of an interface, may be any text without a blank. Elsewhere it
must not look like a word of the language, a brace, or the end of a name in a group.

**Results.**
* `Line.words`, `Line.toString_eq`: the words of a line;
* `Line.statement`, `readStatement_words`: what the filter reads from them;
* `Line.Legible`: lines whose names can be found again;
* `read_toString`: the text of a ruleset is read as what its lines say.
-/

namespace Killswitch

open Killswitch.Filter

/-- A text holds no blank. -/
def Unblank (text : String) : Prop :=
  ∀ c ∈ text.toList, Text.isBlank c = false

instance (text : String) : Decidable (Unblank text) :=
  List.decidableBAll (fun c => Text.isBlank c = false) text.toList

/-! ## The words of a line -/

/-- The names of a group, with a comma after each but the last one. -/
def enumerated : List String → List String
  | [] => []
  | [name] => [name]
  | name :: next :: names => (name ++ ",") :: enumerated (next :: names)

/-- The words of a group. -/
def grouped (names : List String) : List String :=
  "\x7b" :: names ++ ["\x7d"]

/-- The words for the packets that a rule is about. -/
def Scope.words : Scope → List String
  | .all => ["all"]
  | .icmp => "proto" :: grouped (enumerated ["icmp", "icmp6"]) ++ ["all"]
  | .within network => ["from", network, "to", network]
  | .between sources targets =>
      "from" :: grouped (enumerated sources) ++ "to" :: grouped (enumerated targets)
  | .toDestination family destination => [family.toString, "from", "any", "to", destination]

def Rule.words (r : Rule) : List String :=
  r.verdict.toString :: (r.direction.map Direction.toString).toList
    ++ (if r.quick then ["quick"] else []) ++ r.scope.words

def Line.words : Line → List String
  | .blockPolicy => ["set", "block-policy", "return"]
  | .skip interfaces => ["set", "skip", "on"] ++ grouped interfaces
  | .scrub => ["scrub", "in", "all", "fragment", "reassemble"]
  | .rule r => r.words

/-- A name in a group, or between two words of a rule. -/
structure IsName (name : String) : Prop where
  unblank : Unblank name
  ne_any : name ≠ "any"
  ne_opening : name ≠ "\x7b"
  ne_closing : name ≠ "\x7d"
  no_comma : name.toList.getLast? ≠ some ','

theorem isName_iff
    {name : String} :
    IsName name ↔ Unblank name ∧ name ≠ "any" ∧ name ≠ "\x7b" ∧ name ≠ "\x7d"
      ∧ name.toList.getLast? ≠ some ',' := by
  constructor
  · rintro ⟨hblank, hany, hopening, hclosing, hcomma⟩
    exact ⟨hblank, hany, hopening, hclosing, hcomma⟩
  · rintro ⟨hblank, hany, hopening, hclosing, hcomma⟩
    exact ⟨hblank, hany, hopening, hclosing, hcomma⟩

instance (name : String) : Decidable (IsName name) :=
  decidable_of_iff _ isName_iff.symm

/-- The names of a scope can be found again. -/
def Scope.Legible : Scope → Prop
  | .all => True
  | .icmp => True
  | .within network => IsName network
  | .between sources targets =>
      sources ≠ [] ∧ targets ≠ [] ∧ (∀ name ∈ sources, IsName name) ∧ ∀ name ∈ targets, IsName name
  | .toDestination _ destination => Unblank destination

/-- The names of a line can be found again. -/
def Line.Legible : Line → Prop
  | .blockPolicy => True
  | .skip interfaces => interfaces ≠ [] ∧ ∀ interface ∈ interfaces, Unblank interface
  | .scrub => True
  | .rule r => r.scope.Legible

/-! ### Texts -/

theorem enumerated_ne_nil
    {names : List String}
    (h : names ≠ []) :
    enumerated names ≠ [] := by
  cases names with
  | nil =>
      contradiction
  | cons name names =>
      cases names <;> simp [enumerated]

theorem joinWith_enumerated
    (names : List String) :
    Text.joinWith " " (enumerated names) = Text.joinWith ", " names := by
  induction names with
  | nil =>
      rfl
  | cons name names ih =>
      cases names with
      | nil =>
          rfl
      | cons next names =>
          rw [enumerated, Text.joinWith_cons " " _ (enumerated_ne_nil (by simp)), ih,
            Text.joinWith_cons ", " name (by simp)]
          simp [String.append_assoc]

theorem joinWith_grouped
    {names : List String} {separator : String} {listed : List String}
    (hne : listed ≠ [])
    (hlisted : Text.joinWith " " listed = Text.joinWith separator names) :
    Text.joinWith " " (grouped listed) = braced separator names := by
  have hall : grouped listed = ["\x7b"] ++ (listed ++ ["\x7d"]) := rfl
  rw [hall, Text.joinWith_append " " (by simp) (by simp), Text.joinWith_append " " hne (by simp), hlisted]
  simp [braced, Text.joinWith, ← String.toList_inj]

theorem Scope.words_ne_nil
    (scope : Scope) :
    scope.words ≠ [] := by
  cases scope <;> simp [Scope.words]

theorem Scope.toString_eq
    {scope : Scope}
    (h : scope.Legible) :
    scope.toString = Text.joinWith " " scope.words := by
  cases scope with
  | all =>
      rfl
  | icmp =>
      decide
  | within network =>
      simp [Scope.toString, Scope.words, Text.joinWith, ← String.toList_inj]
  | between sources targets =>
      obtain ⟨hsources, htargets, -, -⟩ := h
      have hwords : (Scope.between sources targets).words
          = ["from"] ++ (grouped (enumerated sources) ++ (["to"] ++ grouped (enumerated targets))) := by
        simp [Scope.words]
      rw [hwords, Text.joinWith_append " " (by simp) (by simp [grouped]),
        Text.joinWith_append " " (by simp [grouped]) (by simp),
        Text.joinWith_append " " (by simp) (by simp [grouped]),
        joinWith_grouped (enumerated_ne_nil hsources) (joinWith_enumerated sources),
        joinWith_grouped (enumerated_ne_nil htargets) (joinWith_enumerated targets)]
      simp [Scope.toString, Text.joinWith, ← String.toList_inj]
  | toDestination family destination =>
      simp [Scope.toString, Scope.words, Text.joinWith, ← String.toList_inj]

theorem Rule.toString_eq
    {r : Rule}
    (h : r.scope.Legible) :
    r.toString = Text.joinWith " " r.words := by
  have hscope := Scope.toString_eq h
  have hne := r.scope.words_ne_nil
  obtain ⟨verdict, direction, quick, scope⟩ := r
  -- each of the two may be absent, and then so is the blank in front of it
  cases direction <;> cases quick <;>
    simp [Rule.toString, Rule.words, Text.joinWith_cons, hne, hscope, ← String.toList_inj]

theorem Line.skip_toString_eq
    {interfaces : List String}
    (hne : interfaces ≠ []) :
    (Line.skip interfaces).toString = Text.joinWith " " (Line.skip interfaces).words := by
  rw [Line.words, Text.joinWith_append " " (by simp) (by simp [grouped]), joinWith_grouped hne rfl]
  simp [Line.toString, Text.joinWith]

theorem Line.toString_eq
    {line : Line}
    (h : line.Legible) :
    line.toString = Text.joinWith " " line.words := by
  cases line with
  | blockPolicy =>
      decide
  | skip interfaces =>
      exact Line.skip_toString_eq h.1
  | scrub =>
      decide
  | rule r =>
      exact Rule.toString_eq h

/-! ### Fields -/

theorem unblank_of_mem_enumerated
    {names : List String}
    (h : ∀ name ∈ names, Unblank name) :
    ∀ word ∈ enumerated names, Unblank word := by
  induction names with
  | nil =>
      simp [enumerated]
  | cons name names ih =>
      cases names with
      | nil =>
          simpa [enumerated] using h
      | cons next names =>
          have hname := h name List.mem_cons_self
          have hrest := ih (fun n hn => h n (List.mem_cons_of_mem name hn))
          intro word hword
          rcases List.mem_cons.1 hword with rfl | hword
          · intro c hc
            rw [String.toList_append, List.mem_append] at hc
            rcases hc with hc | hc
            · exact hname c hc
            · simp at hc
              subst hc
              decide
          · exact hrest word hword

theorem unblank_of_mem_grouped
    {names : List String}
    (h : ∀ name ∈ names, Unblank name) :
    ∀ word ∈ grouped names, Unblank word := by
  have hopening : Unblank "\x7b" := by
    decide
  have hclosing : Unblank "\x7d" := by
    decide
  simpa [grouped, or_imp, forall_and, hopening, hclosing] using h

theorem Scope.unblank_of_mem_words
    {scope : Scope}
    (h : scope.Legible) :
    ∀ word ∈ scope.words, Unblank word := by
  have hkeywords : Unblank "from" ∧ Unblank "to" ∧ Unblank "any" := by
    decide
  obtain ⟨hfrom, hto, hany⟩ := hkeywords
  cases scope with
  | all =>
      decide
  | icmp =>
      decide
  | within network =>
      simp [Scope.words, hfrom, hto, h.unblank]
  | between sources targets =>
      obtain ⟨-, -, hsources, htargets⟩ := h
      have hleft := unblank_of_mem_grouped
        (unblank_of_mem_enumerated (fun n hn => (hsources n hn).unblank))
      have hright := unblank_of_mem_grouped
        (unblank_of_mem_enumerated (fun n hn => (htargets n hn).unblank))
      simp only [Scope.words, List.cons_append, List.mem_cons, List.mem_append]
      rintro word (rfl | hword | rfl | hword)
      · exact hfrom
      · exact hleft word hword
      · exact hto
      · exact hright word hword
  | toDestination family destination =>
      have hfamily : Unblank family.toString := by
        cases family <;> decide
      have hdestination : Unblank destination := h
      simp [Scope.words, hfamily, hfrom, hto, hany, hdestination]

theorem Line.unblank_of_mem_words
    {line : Line}
    (h : line.Legible) :
    ∀ word ∈ line.words, Unblank word := by
  cases line with
  | blockPolicy =>
      decide
  | skip interfaces =>
      have hkeywords : ∀ word ∈ ["set", "skip", "on"], Unblank word := by
        decide
      intro word hword
      rcases List.mem_append.1 hword with hword | hword
      · exact hkeywords word hword
      · exact unblank_of_mem_grouped h.2 word hword
  | scrub =>
      decide
  | rule r =>
      have hverdict : Unblank r.verdict.toString := by
        cases r.verdict <;> decide
      have hdirection : ∀ word ∈ (r.direction.map Direction.toString).toList, Unblank word := by
        rcases r.direction with _ | _ | _ <;> decide
      have hquick : ∀ word ∈ (if r.quick then ["quick"] else []), Unblank word := by
        cases r.quick <;> decide
      have hscope : ∀ word ∈ r.scope.words, Unblank word := Scope.unblank_of_mem_words h
      simp only [Line.words, Rule.words, List.cons_append, List.mem_cons, List.mem_append]
      rintro word (rfl | (hword | hword) | hword)
      · exact hverdict
      · exact hdirection word hword
      · exact hquick word hword
      · exact hscope word hword

/-- The fields of a line are its words. -/
theorem fields_toString
    {line : Line}
    (h : line.Legible) :
    fields line.toString.toList = line.words := by
  have hne : line.words ≠ [] := by
    cases line <;> simp [Line.words, Rule.words]
  have hblank : " ".toList = [' '] := rfl
  rw [fields, Line.toString_eq h,
    Text.pieces_joinWith hblank (by decide) hne (Line.unblank_of_mem_words h), List.map_map]
  simp [Function.comp_def]

/-! ## What is read -/

/-- What a rule says about the families, the protocols and the end points of packets. -/
def Scope.clause (scope : Scope) (verdict : Verdict) (direction : Option Direction) (quick : Bool) :
    Clause :=
  match scope with
  | .all => ⟨verdict, direction, quick, none, none, .any, .any⟩
  | .icmp => ⟨verdict, direction, quick, none, some ["icmp", "icmp6"], .any, .any⟩
  | .within network =>
      ⟨verdict, direction, quick, none, none, .named [network], .named [network]⟩
  | .between sources targets =>
      ⟨verdict, direction, quick, none, none, .named sources, .named targets⟩
  | .toDestination family destination =>
      ⟨verdict, direction, quick, some family, none, .any, .named [destination]⟩

def Rule.clause (r : Rule) : Clause :=
  r.scope.clause r.verdict r.direction r.quick

def Line.statement : Line → Statement
  | .blockPolicy => .setting
  | .skip interfaces => .skip interfaces
  | .scrub => .setting
  | .rule r => .clause r.clause

theorem withoutComma_comma
    (name : String) :
    withoutComma (name ++ ",") = name := by
  simp [withoutComma]

theorem ne_closing_of_comma
    (name : String) :
    name ++ "," ≠ "\x7d" := by
  intro h
  have hlast := congrArg (fun s => s.toList.getLast?) h
  simp at hlast

/-- The names of a group are read up to its closing brace. -/
theorem readGroup_enumerated
    {names : List String} (rest : List String)
    (hne : names ≠ [])
    (h : ∀ name ∈ names, IsName name) :
    readGroup? (enumerated names ++ "\x7d" :: rest) = some (names, rest) := by
  induction names with
  | nil =>
      contradiction
  | cons name names ih =>
      have hname := h name List.mem_cons_self
      cases names with
      | nil =>
          simp [enumerated, readGroup?, withoutComma, hname.ne_closing, hname.no_comma]
      | cons next names =>
          have hrest := ih (by simp) (fun n hn => h n (List.mem_cons_of_mem name hn))
          simp [enumerated, readGroup?, ne_closing_of_comma, hrest, withoutComma_comma]

theorem readHosts_grouped
    {names : List String} (rest : List String)
    (hne : names ≠ [])
    (h : ∀ name ∈ names, IsName name) :
    readHosts? (grouped (enumerated names) ++ rest) = some (.named names, rest) := by
  have hgroup := readGroup_enumerated rest hne h
  -- something follows the opening brace, so it is not the last field, which would be a name
  obtain ⟨first, more, hmore⟩ : ∃ first more,
      enumerated names ++ "\x7d" :: rest = first :: more :=
    List.exists_cons_of_ne_nil (by simp)
  have hall : grouped (enumerated names) ++ rest = "\x7b" :: first :: more := by
    rw [← hmore]
    simp [grouped]
  rw [hmore] at hgroup
  rw [hall, readHosts?, if_neg (by decide), if_pos rfl, hgroup]
  · rfl
  · simp

/-- The end points of a rule are read from its last words. -/
theorem readEnds_within
    {network : String}
    (h : IsName network) :
    readEnds? ["from", network, "to", network] = some (.named [network], .named [network]) := by
  simp [readEnds?, readHosts?, h.ne_any, h.ne_opening]

theorem readEnds_between
    {sources targets : List String}
    (hsources : sources ≠ []) (htargets : targets ≠ [])
    (hsource : ∀ name ∈ sources, IsName name) (htarget : ∀ name ∈ targets, IsName name) :
    readEnds? ("from" :: grouped (enumerated sources) ++ "to" :: grouped (enumerated targets))
      = some (.named sources, .named targets) := by
  have hleft := readHosts_grouped ("to" :: grouped (enumerated targets)) hsources hsource
  have hright := readHosts_grouped [] htargets htarget
  rw [List.append_nil] at hright
  simp [readEnds?, hleft, hright]

theorem readVerdict_words
    (verdict : Verdict) (rest : List String) :
    readVerdict? (verdict.toString :: rest) = some (verdict, rest) := by
  cases verdict <;> rfl

theorem readDirection_words
    (direction : Option Direction) (quick : Bool) (scope : Scope) :
    readDirection ((direction.map Direction.toString).toList
        ++ ((if quick then ["quick"] else []) ++ scope.words))
      = (direction, (if quick then ["quick"] else []) ++ scope.words) := by
  cases direction with
  | some direction =>
      cases direction <;> rfl
  | none =>
      cases quick with
      | true =>
          rfl
      | false =>
          cases scope with
          | toDestination family destination =>
              cases family <;> rfl
          | _ =>
              rfl

theorem readQuick_words
    (quick : Bool) (scope : Scope) :
    readQuick ((if quick then ["quick"] else []) ++ scope.words) = (quick, scope.words) := by
  cases quick with
  | true =>
      rfl
  | false =>
      cases scope with
      | toDestination family destination =>
          cases family <;> rfl
      | _ =>
          rfl

/-- A rule is read from its words. -/
theorem readClause_words
    {r : Rule}
    (h : r.scope.Legible) :
    readClause? r.words = some r.clause := by
  obtain ⟨verdict, direction, quick, scope⟩ := r
  simp only [readClause?, Rule.words, List.cons_append, List.append_assoc, readVerdict_words,
    Option.bind_eq_bind, Option.bind_some, readDirection_words, readQuick_words, Rule.clause]
  cases scope with
  | all =>
      rfl
  | icmp =>
      rfl
  | within network =>
      simp [Scope.words, Scope.clause, readFamily, readProtocols?, readEnds_within h]
  | between sources targets =>
      obtain ⟨hsources, htargets, hsource, htarget⟩ := h
      have hends := readEnds_between hsources htargets hsource htarget
      simp [Scope.words, Scope.clause, readFamily, readProtocols?] at hends ⊢
      simp [hends]
  | toDestination family destination =>
      cases family <;> simp [Scope.words, Scope.clause, Family.toString, readFamily, readProtocols?,
        readEnds?, readHosts?]

/-- A line is read from its words. -/
theorem readStatement_words
    {line : Line}
    (h : line.Legible) :
    readStatement? line.words = some line.statement := by
  cases line with
  | blockPolicy =>
      rfl
  | skip interfaces =>
      simp [Line.words, Line.statement, grouped, readStatement?]
  | scrub =>
      rfl
  | rule r =>
      have hclause : readClause? r.words = some r.clause := readClause_words h
      -- a rule starts with its verdict, so it is no other kind of line
      have hother : readStatement? r.words = (readClause? r.words).map .clause := by
        obtain ⟨verdict, direction, quick, scope⟩ := r
        cases verdict <;> simp [Rule.words, Verdict.toString, readStatement?]
      rw [Line.words, hother, hclause]
      rfl

theorem readLines_append
    {lines more : List (List Char)} {first rest : List Statement}
    (hlines : readLines? lines = some first)
    (hmore : readLines? more = some rest) :
    readLines? (lines ++ more) = some (first ++ rest) := by
  induction lines generalizing first with
  | nil =>
      obtain rfl : [] = first := Option.some.inj hlines
      exact hmore
  | cons line lines ih =>
      obtain ⟨statement, hstatement, hlines⟩ := Option.bind_eq_some_iff.1 hlines
      obtain ⟨statements, hstatements, hfirst⟩ := Option.bind_eq_some_iff.1 hlines
      obtain rfl := Option.some.inj hfirst
      simp [readLines?, hstatement, ih hstatements]

/-- A line is a single line. -/
theorem ne_break_of_mem_toString
    {line : Line} {c : Char}
    (h : line.Legible)
    (hc : c ∈ line.toString.toList) :
    c ≠ '\n' := by
  rw [Line.toString_eq h] at hc
  rintro rfl
  rcases Text.mem_joinWith hc with hblank | ⟨word, hword, hbreak⟩
  · simp at hblank
  · exact absurd (Line.unblank_of_mem_words h word hword '\n' hbreak) (by decide)

/-- The text of a ruleset with legible names is read as what its lines say. -/
theorem read_toString
    {rules : Ruleset}
    (h : ∀ line ∈ rules, line.Legible) :
    read? rules.toString = some (rules.map Line.statement ++ [.setting]) := by
  have hbreak : "\n".toList = ['\n'] := rfl
  have htexts : ∀ text ∈ rules.map Line.toString, ∀ c ∈ text.toList, (c == '\n') = false := by
    intro text htext c hc
    obtain ⟨line, hline, rfl⟩ := List.mem_map.1 htext
    simpa using ne_break_of_mem_toString (h line hline) hc
  have hpieces : Text.pieces (· == '\n') rules.toString.toList
      = (rules.map Line.toString).map String.toList ++ [[]] := by
    rw [← Text.pieces_ended hbreak (by decide) htexts, Ruleset.toString, List.map_map]
    rfl
  have hlines : ∀ lines : Ruleset, (∀ line ∈ lines, line.Legible) →
      readLines? ((lines.map Line.toString).map String.toList) = some (lines.map Line.statement) := by
    intro lines hlegible
    induction lines with
    | nil =>
        rfl
    | cons line lines ih =>
        have hline := hlegible line List.mem_cons_self
        have hrest := ih (fun l hl => hlegible l (List.mem_cons_of_mem line hl))
        simp only [List.map_cons, readLines?, fields_toString hline, readStatement_words hline, hrest]
        rfl
  rw [read?, hpieces]
  exact readLines_append (hlines rules h) rfl

end Killswitch
