import Killswitch.Proofs.Text.Pieces
import Killswitch.Text.Lines

/-!
# Words in lines, lines in texts

A text is written line by line, and a line word by word. Between the words of a line, in front of them and
behind them there is padding, and between lines there is a line break. Reading the lines of a text and the
words of each line gives back the words, whatever padding and whatever breaks there are. Only the lines
without a word may be others: a carriage return and a line feed are one break, also where a line without a
word was to stand between them.

**Results.**
* `words_append_blank`, `words_of_unblank`, `words_of_blank`: the words of a text with a blank in it, of a
  word, and of a gap;
* `lines_append_break`, `lines_append_return`, `lines_append_feed`: the lines of a text with a break in it;
* `lines_unifyBreaks`, `filterMap_lines`: what is found in the lines of a text, whatever its breaks are;
* `Spells`, `spells_iff`: a line that is written word by word; every line without a break is;
* `wordsOf_joinWith`: words with a space between neighbours;
* `SpellsText`, `filter_wordsOf`: a text that is written line by line, and the words that are read.
-/

namespace Killswitch
namespace Text

/-! ## Words -/

section Words

/-- A blank anywhere in a text divides its words. -/
theorem words_append_blank
    (s t : List Char) {c : Char} (hc : isBlank c = true) :
    words (s ++ c :: t) = words s ++ words t := by
  rw [words, pieces_append_separator s t hc, List.filter_append]
  rfl

theorem words_cons_blank
    (s : List Char) {c : Char} (hc : isBlank c = true) :
    words (c :: s) = words s :=
  words_append_blank [] s hc

/-- A gap in front of a text has no words. -/
theorem words_append_gap
    {gap : List Char} (hgap : ∀ c ∈ gap, isBlank c = true) (s : List Char) :
    words (gap ++ s) = words s := by
  induction gap with
  | nil =>
      rfl
  | cons c gap ih =>
      rw [List.cons_append, words_cons_blank (gap ++ s) (hgap c List.mem_cons_self)]
      exact ih (fun d hd => hgap d (List.mem_cons_of_mem c hd))

theorem words_of_blank
    {gap : List Char} (hgap : ∀ c ∈ gap, isBlank c = true) :
    words gap = [] := by
  have h := words_append_gap hgap []
  rwa [List.append_nil] at h

/-- A text without blanks is a single word. -/
theorem words_of_unblank
    {word : List Char} (hne : word ≠ []) (hword : ∀ c ∈ word, isBlank c = false) :
    words word = [word] := by
  rw [words, pieces_of_forall_not hword]
  simp [hne]

/-- A word ends at the next blank. -/
theorem words_append_rest
    {word rest : List Char}
    (hne : word ≠ []) (hword : ∀ c ∈ word, isBlank c = false)
    (hrest : ∀ c ∈ rest.head?, isBlank c = true) :
    words (word ++ rest) = word :: words rest := by
  cases rest with
  | nil =>
      rw [List.append_nil, words_of_unblank hne hword]
      rfl
  | cons c rest =>
      have hc : isBlank c = true := hrest c rfl
      rw [words_append_blank word rest hc, words_of_unblank hne hword, words_cons_blank rest hc]
      rfl

end Words

/-! ## Lines -/

section Lines

variable {line rest : List Char} {c : Char}

/-- Every line break is a blank. -/
theorem isBlank_of_isLineBreak (h : isLineBreak c = true) :
    isBlank c = true := by
  simp only [isLineBreak, isBlank, Bool.or_eq_true, Bool.and_eq_true, decide_eq_true_eq, beq_iff_eq] at h ⊢
  omega

theorem not_break_of_not_blank
    (h : isBlank c = false) :
    isLineBreak c = false := by
  refine Bool.eq_false_iff.2 (fun hbreak => ?_)
  rw [isBlank_of_isLineBreak hbreak] at h
  contradiction

theorem lines_cons_of_not_break
    (hc : isLineBreak c = false) (s : List Char) :
    lines (c :: s) = (c :: (lines s).headD []) :: (lines s).tail := by
  have hreturn : c ≠ '\r' := by
    rintro rfl
    exact absurd hc (by decide)
  rw [lines]
  · rw [if_neg (by simp [hc])]
    cases lines s <;> rfl
  · rintro t rfl
    exact absurd rfl hreturn

/-- A text without breaks is a single line, or none if it is empty. -/
theorem lines_of_not_break
    (hne : line ≠ []) (hline : ∀ c ∈ line, isLineBreak c = false) :
    lines line = [line] := by
  induction line with
  | nil =>
      contradiction
  | cons c line ih =>
      rw [lines_cons_of_not_break (hline c List.mem_cons_self)]
      by_cases hrest : line = []
      · subst hrest
        rfl
      · rw [ih hrest (fun d hd => hline d (List.mem_cons_of_mem c hd))]
        rfl

/-- Letters in front of an empty line are that line. -/
theorem lines_append_of_empty
    {more : List (List Char)}
    (hline : ∀ c ∈ line, isLineBreak c = false)
    (hempty : lines rest = [] :: more) :
    lines (line ++ rest) = line :: more := by
  induction line with
  | nil =>
      exact hempty
  | cons d line ih =>
      rw [List.cons_append, lines_cons_of_not_break (hline d List.mem_cons_self),
        ih (fun e he => hline e (List.mem_cons_of_mem d he))]
      rfl

/-- A break ends the line before it, if it is not one break with the line feed behind it. -/
theorem lines_append_break
    (hline : ∀ c ∈ line, isLineBreak c = false)
    (hc : isLineBreak c = true)
    (hreturn : c = '\r' → rest.head? ≠ some '\n') :
    lines (line ++ c :: rest) = line :: lines rest := by
  have hempty : lines (c :: rest) = [] :: lines rest := by
    rw [lines]
    · rw [if_pos hc]
    · rintro t rfl rfl
      exact hreturn rfl rfl
  exact lines_append_of_empty hline hempty

/-- A carriage return and the line feed behind it end the line before them. -/
theorem lines_append_return
    (hline : ∀ c ∈ line, isLineBreak c = false) :
    lines (line ++ '\r' :: '\n' :: rest) = line :: lines rest :=
  lines_append_of_empty hline rfl

theorem lines_ne_nil
    (hne : line ≠ []) :
    lines line ≠ [] := by
  fun_cases lines line with
  | case1 => contradiction
  | case2 => simp
  | case3 => simp
  | case4 => simp
  | case5 => simp

/-- A line feed ends the lines before it, whatever they hold. -/
theorem lines_append_feed
    (s t : List Char) :
    lines (s ++ '\n' :: t) = lines (s ++ ['\n']) ++ lines t := by
  have hletter : ∀ (c : Char) (s : List Char), isLineBreak c = false →
      lines (s ++ '\n' :: t) = lines (s ++ ['\n']) ++ lines t →
      lines (c :: s ++ '\n' :: t) = lines (c :: s ++ ['\n']) ++ lines t := by
    intro c s hc ih
    have hsome : s ++ ['\n'] ≠ [] := by
      simp
    obtain ⟨first, more, hlines⟩ := List.exists_cons_of_ne_nil (lines_ne_nil hsome)
    rw [List.cons_append, List.cons_append, lines_cons_of_not_break hc, lines_cons_of_not_break hc, ih, hlines]
    rfl
  -- a break is read by itself, unless it is a carriage return with a line feed behind it
  fun_induction lines s with
  | case1 =>
      rfl
  | case2 s ih =>
      exact congrArg ([] :: ·) ih
  | case3 c s hpair hc ih =>
      by_cases hreturn : c = '\r' ∧ s = []
      · obtain ⟨rfl, rfl⟩ := hreturn
        rfl
      · have hnext : ∀ rest, c = '\r' → (s ++ '\n' :: rest).head? ≠ some '\n' := by
          rintro rest rfl hhead
          cases s with
          | nil =>
              exact hreturn ⟨rfl, rfl⟩
          | cons d s =>
              exact hpair s rfl (congrArg (· :: s) (Option.some.inj hhead))
        have hstep : ∀ rest, lines (c :: s ++ '\n' :: rest) = [] :: lines (s ++ '\n' :: rest) := fun rest =>
          lines_append_break (List.forall_mem_nil _) hc (hnext rest)
        rw [hstep, hstep, ih]
        rfl
  | case4 c s _ hc _ ih =>
      exact hletter c s (by simpa using hc) ih
  | case5 c s _ hc _ _ _ ih =>
      exact hletter c s (by simpa using hc) ih

/-- To read carriage returns as line feeds changes no line. -/
theorem lines_unifyBreaks (s : List Char) :
    lines (unifyBreaks s) = lines s := by
  fun_induction unifyBreaks s with
  | case1 =>
      rfl
  | case2 rest ih =>
      exact congrArg ([] :: ·) ih
  | case3 c rest hpair ih =>
      have hnone : ∀ c ∈ ([] : List Char), isLineBreak c = false := by
        simp
      by_cases hreturn : c = '\r'
      · subst hreturn
        have hlone : rest.head? ≠ some '\n' := by
          intro hhead
          obtain ⟨behind, rfl⟩ := List.head?_eq_some_iff.1 hhead
          exact hpair behind rfl rfl
        calc
          lines ('\n' :: unifyBreaks rest) = [] :: lines (unifyBreaks rest) := rfl
          _ = [] :: lines rest := congrArg _ ih
          _ = lines ('\r' :: rest) := (lines_append_break hnone rfl (fun _ => hlone)).symm
      · rw [if_neg hreturn]
        by_cases hc : isLineBreak c = true
        · have hstep : ∀ t, lines (c :: t) = [] :: lines t := fun t =>
            lines_append_break hnone hc (fun h => absurd h hreturn)
          rw [hstep, hstep, ih]
        · rw [lines_cons_of_not_break (by simpa using hc), lines_cons_of_not_break (by simpa using hc), ih]

theorem filterMap_eq_of_head_tail
    {β : Type} {f : List Char → Option β} (hf : f [] = none) {written other : List (List Char)}
    (hhead : written.headD [] = other.headD [])
    (htail : written.tail.filterMap f = other.tail.filterMap f) :
    written.filterMap f = other.filterMap f := by
  have hparts : ∀ written : List (List Char),
      written.filterMap f = (f (written.headD [])).toList ++ written.tail.filterMap f := by
    rintro (_ | ⟨line, more⟩)
    · simp [hf]
    · cases hline : f line <;> simp [hline]
  rw [hparts written, hparts other, hhead, htail]

/-- The first line of a text is its first piece between breaks. Behind it the lines and the pieces differ in
empty ones only: there is nothing between a carriage return and a line feed, and no line behind the last
break. -/
theorem lines_head_tail
    {β : Type} {f : List Char → Option β} (hf : f [] = none) (s : List Char) :
    (lines s).headD [] = (pieces isLineBreak s).headD []
      ∧ (lines s).tail.filterMap f = (pieces isLineBreak s).tail.filterMap f := by
  have hletter : ∀ (c : Char) (rest : List Char), isLineBreak c = false →
      (lines rest).headD [] = (pieces isLineBreak rest).headD []
        ∧ (lines rest).tail.filterMap f = (pieces isLineBreak rest).tail.filterMap f →
      (lines (c :: rest)).headD [] = (pieces isLineBreak (c :: rest)).headD []
        ∧ (lines (c :: rest)).tail.filterMap f = (pieces isLineBreak (c :: rest)).tail.filterMap f := by
    rintro c rest hc ⟨hhead, htail⟩
    obtain ⟨first, more, hpieces⟩ := List.exists_cons_of_ne_nil (pieces_ne_nil isLineBreak rest)
    rw [hpieces] at hhead htail
    rw [lines_cons_of_not_break hc, pieces, hc, hpieces, hhead]
    exact ⟨rfl, htail⟩
  fun_induction lines s with
  | case1 =>
      exact ⟨rfl, rfl⟩
  | case2 rest ih =>
      have hpair : pieces isLineBreak ('\r' :: '\n' :: rest) = [] :: [] :: pieces isLineBreak rest := rfl
      rw [hpair, List.tail_cons, List.tail_cons, List.filterMap_cons_none hf]
      exact ⟨rfl, filterMap_eq_of_head_tail hf ih.1 ih.2⟩
  | case3 c rest _ hc ih =>
      rw [pieces, if_pos hc]
      exact ⟨rfl, filterMap_eq_of_head_tail hf ih.1 ih.2⟩
  | case4 c rest _ hc hlines ih =>
      have hline := hletter c rest (by simpa using hc) ih
      rwa [lines_cons_of_not_break (by simpa using hc), hlines] at hline
  | case5 c rest _ hc line more hlines ih =>
      have hline := hletter c rest (by simpa using hc) ih
      rwa [lines_cons_of_not_break (by simpa using hc), hlines] at hline

/-- What is found in the lines of a text is found in its pieces between breaks, if nothing is found in an
empty line. -/
theorem filterMap_lines
    {β : Type} {f : List Char → Option β} (hf : f [] = none) (s : List Char) :
    (lines s).filterMap f = (pieces isLineBreak s).filterMap f :=
  filterMap_eq_of_head_tail hf (lines_head_tail hf s).1 (lines_head_tail hf s).2

end Lines

/-! ## Lines that are written word by word -/

/-- Padding: blanks that end no line, such as spaces and tabs. -/
def IsPadding (s : List Char) : Prop :=
  ∀ c ∈ s, isBlank c = true ∧ isLineBreak c = false

/-- A word: a text without blanks that is not empty. -/
def IsWord (word : String) : Prop :=
  word.toList ≠ [] ∧ ∀ c ∈ word.toList, isBlank c = false

instance (word : String) : Decidable (IsWord word) :=
  @instDecidableAnd _ _ inferInstance (List.decidableBAll (fun c => isBlank c = false) word.toList)

/-- A line is written word by word, with padding in front of each word and at the end. Behind a word comes
a blank, or the line ends. -/
inductive Spells : (line : List Char) → (fields : List String) → Prop
  | nil {padding : List Char} :
      IsPadding padding → Spells padding []
  | cons {padding rest : List Char} {word : String} {fields : List String} :
      IsPadding padding → IsWord word → (∀ c ∈ rest.head?, isBlank c = true) → Spells rest fields →
      Spells (padding ++ word.toList ++ rest) (word :: fields)

section Spelling

variable {line : List Char} {fields : List String}

def wordsOf (line : List Char) : List String :=
  (words line).map String.ofList

/-- Words with a space between neighbours are read back. -/
theorem wordsOf_joinWith
    {written : List String}
    (hne : written ≠ []) (hwords : ∀ word ∈ written, IsWord word) :
    wordsOf (joinWith " " written).toList = written := by
  have hkept : (written.map String.toList).filter (fun piece => !piece.isEmpty)
      = written.map String.toList := by
    refine List.filter_eq_self.2 (fun piece hpiece => ?_)
    obtain ⟨word, hword, rfl⟩ := List.mem_map.1 hpiece
    simpa using (hwords word hword).1
  rw [wordsOf, words, pieces_joinWith (show " ".toList = [' '] from rfl) (by decide) hne (fun word hword => (hwords word hword).2),
    hkept, List.map_map]
  simp [Function.comp_def]

/-- What is read from a line are words. -/
theorem isWord_of_mem_wordsOf
    {word : String} (h : word ∈ wordsOf line) :
    IsWord word := by
  obtain ⟨letters, hmem, rfl⟩ := List.mem_map.1 h
  rw [IsWord, String.toList_ofList]
  exact ⟨ne_nil_of_mem_words hmem, not_blank_of_mem_words hmem⟩

/-- The words that a line is written in are read back. -/
theorem Spells.wordsOf_eq
    (h : Spells line fields) :
    wordsOf line = fields := by
  induction h with
  | nil hpadding =>
      rw [wordsOf, words_of_blank (fun c hc => (hpadding c hc).1)]
      rfl
  | @cons padding rest word fields hpadding hword hrest _ ih =>
      rw [wordsOf, List.append_assoc, words_append_gap (fun c hc => (hpadding c hc).1),
        words_append_rest hword.1 hword.2 hrest, List.map_cons, String.ofList_toList]
      exact congrArg (word :: ·) ih

theorem Spells.not_break
    (h : Spells line fields) :
    ∀ c ∈ line, isLineBreak c = false := by
  induction h with
  | nil hpadding =>
      intro c hc
      exact (hpadding c hc).2
  | cons hpadding hword _ _ ih =>
      intro c hc
      rcases List.mem_append.1 hc with hc | hc
      · rcases List.mem_append.1 hc with hc | hc
        · exact (hpadding c hc).2
        · exact not_break_of_not_blank (hword.2 c hc)
      · exact ih c hc

/-- Padding in front of a line changes nothing. -/
theorem Spells.cons_padding
    {c : Char} (hblank : isBlank c = true) (hbreak : isLineBreak c = false)
    (h : Spells line fields) :
    Spells (c :: line) fields := by
  cases h with
  | nil hpadding =>
      exact .nil (List.forall_mem_cons.2 ⟨⟨hblank, hbreak⟩, hpadding⟩)
  | cons hpadding hword hrest hmore =>
      exact .cons (List.forall_mem_cons.2 ⟨⟨hblank, hbreak⟩, hpadding⟩) hword hrest hmore

/-- A character that is no blank starts a word, or makes the first word longer. -/
theorem Spells.cons_letter
    {c : Char} (hc : isBlank c = false)
    (h : Spells line fields) :
    ∃ fields, Spells (c :: line) fields := by
  have hletter : ∀ word, (∀ d ∈ word, isBlank d = false) → IsWord (String.ofList (c :: word)) := by
    intro word hword
    refine ⟨by simp, ?_⟩
    rw [String.toList_ofList]
    exact List.forall_mem_cons.2 ⟨hc, hword⟩
  have hnone : IsPadding [] := by
    simp [IsPadding]
  by_cases hhead : ∀ d ∈ line.head?, isBlank d = true
  · have hspells := Spells.cons hnone (hletter [] (by simp)) hhead h
    rw [String.toList_ofList] at hspells
    exact ⟨_, hspells⟩
  · cases h with
    | nil hpadding =>
        exact absurd (fun d hd => (hpadding d (List.mem_of_head? hd)).1) hhead
    | @cons padding rest word fields hpadding hword hrest hmore =>
        cases padding with
        | nil =>
            have hspells := Spells.cons hnone (hletter _ hword.2) hrest hmore
            rw [String.toList_ofList] at hspells
            exact ⟨_, hspells⟩
        | cons d padding =>
            refine absurd ?_ hhead
            rintro e ⟨⟩
            exact (hpadding d List.mem_cons_self).1

/-- A line is written in its words, and in no others. Every text without a break is a line. -/
theorem spells_iff :
    Spells line fields ↔ (∀ c ∈ line, isLineBreak c = false) ∧ wordsOf line = fields := by
  constructor
  · intro h
    exact ⟨h.not_break, h.wordsOf_eq⟩
  · rintro ⟨hline, rfl⟩
    have hspells : ∃ fields, Spells line fields := by
      induction line with
      | nil =>
          exact ⟨[], .nil (by simp [IsPadding])⟩
      | cons c line ih =>
          obtain ⟨hc, hline⟩ := List.forall_mem_cons.1 hline
          obtain ⟨fields, hfields⟩ := ih hline
          cases hblank : isBlank c with
          | true =>
              exact ⟨fields, hfields.cons_padding hblank hc⟩
          | false =>
              exact hfields.cons_letter hblank
    obtain ⟨fields, hfields⟩ := hspells
    rw [hfields.wordsOf_eq]
    exact hfields

/-- The words a line is written in are found by reading it. -/
instance : Decidable (Spells line fields) :=
  decidable_of_iff (line.all (!isLineBreak ·) = true ∧ wordsOf line = fields) (by
    rw [spells_iff, List.all_eq_true]
    simp only [Bool.not_eq_true'])

end Spelling

/-! ## Texts that are written line by line -/

/-- A line break: a character that ends a line, or a carriage return and a line feed. -/
def IsBreak (s : List Char) : Prop :=
  s = ['\r', '\n'] ∨ ∃ c, isLineBreak c = true ∧ s = [c]

/-- A text is written line by line. The last line need not be ended by a break. -/
inductive SpellsText : (text : List Char) → (lines : List (List String)) → Prop
  | nil :
      SpellsText [] []
  | last {line : List Char} {fields : List String} :
      Spells line fields → SpellsText line [fields]
  | cons {line ending rest : List Char} {fields : List String} {lines : List (List String)} :
      Spells line fields → IsBreak ending → SpellsText rest lines →
      SpellsText (line ++ ending ++ rest) (fields :: lines)

/-- Without the lines that have no word, the lines that a text is written in are read back. -/
theorem SpellsText.filter_wordsOf
    {text : List Char} {written : List (List String)}
    (h : SpellsText text written) :
    ((lines text).map wordsOf).filter (!·.isEmpty) = written.filter (!·.isEmpty) := by
  induction h with
  | nil =>
      rfl
  | @last line fields hline =>
      by_cases hne : line = []
      · subst hne
        rw [← hline.wordsOf_eq]
        rfl
      · rw [lines_of_not_break hne hline.not_break, List.map_singleton, hline.wordsOf_eq]
  | @cons line ending rest fields written hline hending hrest ih =>
      have hnext : ∀ rest', lines (line ++ ending ++ rest) = line :: lines rest' →
          ((lines rest').map wordsOf).filter (!·.isEmpty) = ((lines rest).map wordsOf).filter (!·.isEmpty) →
          ((lines (line ++ ending ++ rest)).map wordsOf).filter (!·.isEmpty)
            = (fields :: written).filter (!·.isEmpty) := by
        intro rest' hlines hsame
        rw [hlines, List.map_cons, hline.wordsOf_eq, List.filter_cons, List.filter_cons, hsame, ih]
      rw [List.append_assoc] at hnext ⊢
      rcases hending with rfl | ⟨c, hc, rfl⟩
      · exact hnext _ (lines_append_return hline.not_break) rfl
      · by_cases hreturn : c = '\r' → rest.head? ≠ some '\n'
        · exact hnext _ (lines_append_break hline.not_break hc hreturn) rfl
        · -- the break is one with a line feed that was to end a line without a word
          obtain ⟨rfl, hfeed⟩ := Classical.not_imp.1 hreturn
          obtain ⟨behind, rfl⟩ := List.head?_eq_some_iff.1 (Classical.not_not.1 hfeed)
          refine hnext behind (lines_append_return hline.not_break) ?_
          rw [show lines ('\n' :: behind) = [] :: lines behind from rfl]
          rfl

end Text
end Killswitch
