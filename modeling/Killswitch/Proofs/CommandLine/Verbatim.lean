import Killswitch.Proofs.CommandLine.Escape
import Killswitch.Proofs.Text.Pieces

/-!
# Texts that are shown as they are

A message that comes from elsewhere is escaped, rendered, cut into lines and put together again. If it has no
backslash, its marks are escaped and rendered to themselves; if it has no tab either, and no control that the
screen ignores, the user sees the message itself.

**Backslashes.** A backslash in front of a bracket that begins no mark is not shown, and one at the end of an
escaped text is doubled. So nothing is said about messages that have some.

**Pictures.** The name of a picture between two colons is not replaced by the picture, here as in `Screen.textOf`.

**Results.**
* `StyledText.chars_splitLines`: the lines of a text are its pieces between line feeds;
* `Markup.Escaped.shown`, `Markup.shows_escape`: an escaped text without backslashes is shown as the text;
* `Screen.textOf_diagnostic_eq`: what is shown of a diagnostic.
-/

namespace Killswitch

/-! ## Lines and tabs -/

namespace StyledText

variable {isMark : Char → Bool} {place cut : Nat} {s : List Char} {cuts : List Nat} {t : StyledText}

theorem placesAfter_eq_nil_iff :
    placesAfter isMark place s = [] ↔ ∀ c ∈ s, isMark c = false := by
  induction s generalizing place with
  | nil =>
      simp [placesAfter]
  | cons c s ih =>
      by_cases hc : isMark c = true
      · simp [placesAfter, hc]
      · simp [placesAfter, hc, ih]

/-- The first place is the one behind the first mark, and the others are those of what follows. -/
theorem placesAfter_eq_cons
    (h : placesAfter isMark place s = cut :: cuts) :
    ∃ line c rest, s = line ++ c :: rest
      ∧ (∀ d ∈ line, isMark d = false)
      ∧ isMark c = true
      ∧ cut = place + (line.length + 1)
      ∧ cuts = placesAfter isMark cut rest := by
  induction s generalizing place with
  | nil =>
      contradiction
  | cons c s ih =>
      by_cases hc : isMark c = true
      · rw [placesAfter, if_pos hc] at h
        obtain ⟨rfl, rfl⟩ := List.cons.inj h
        exact ⟨[], c, s, rfl, by simp, hc, rfl, rfl⟩
      · rw [placesAfter, if_neg hc] at h
        obtain ⟨line, d, rest, rfl, hline, hd, rfl, hcuts⟩ := ih h
        refine ⟨c :: line, d, rest, rfl, ?_, hd, by simp; omega, hcuts⟩
        simpa [hc] using hline

/-- The slices of a text behind each of its line feeds, the line feeds cut off, are the pieces between them. -/
theorem chars_slicesFrom
    (t : StyledText) (place k : Nat)
    (h : placesAfter (· == '\n') place t.chars = cuts) :
    ((slicesFrom place t cuts).zipIdx k).map (fun line =>
        if line.2 < k + cuts.length then line.1.chars.take (line.1.chars.length - 1) else line.1.chars)
      = Text.pieces (· == '\n') t.chars := by
  induction cuts generalizing place t k with
  | nil =>
      rw [Text.pieces_of_forall_not (placesAfter_eq_nil_iff.1 h)]
      simp [slicesFrom, sliceFrom]
  | cons cut cuts ih =>
      obtain ⟨line, c, rest, hchars, hline, hc, rfl, hcuts⟩ := placesAfter_eq_cons h
      have hrest : (t.sliceFrom (place + (line.length + 1) - place)).chars = rest := by
        simp [sliceFrom, hchars]
      have htail := ih (t.sliceFrom (place + (line.length + 1) - place)) _ (k + 1) (hrest.symm ▸ hcuts.symm)
      rw [hrest] at htail
      rw [hchars, Text.pieces_append_cons hline hc, slicesFrom, List.zipIdx_cons, List.map_cons, ← htail]
      congr 1
      · simp [slice, hchars, List.take_take]
      · simp [Nat.add_assoc, Nat.add_comm 1]

/-- The lines of a text are its pieces between line feeds. -/
theorem chars_splitLines (t : StyledText) :
    t.splitLines.map StyledText.chars = Text.pieces (· == '\n') t.chars := by
  have hslices := chars_slicesFrom t 0 0 rfl
  rw [Nat.zero_add] at hslices
  have hline : ∀ last (line : StyledText × Nat),
      (if line.2 < last then line.1.slice 0 (line.1.chars.length - 1) else line.1).chars
        = if line.2 < last then line.1.chars.take (line.1.chars.length - 1) else line.1.chars := by
    intro last line
    split <;> simp [slice]
  simp only [splitLines, List.map_map, Function.comp_def, hline]
  unfold divide
  split
  · rename_i hnone
    have hnil := List.isEmpty_iff.1 hnone
    rw [hnil] at hslices ⊢
    simpa [slicesFrom, sliceFrom] using hslices
  · exact hslices

/-- A line without tabs is as wide as it is. -/
theorem expandTabs_of_not_mem
    (h : '\t' ∉ t.chars) :
    t.expandTabs = t := by
  have hnone : placesAfter (· == '\t') 0 t.chars = [] := by
    refine placesAfter_eq_nil_iff.2 (fun c hc => ?_)
    simpa using ne_of_mem_of_not_mem hc h
  rw [expandTabs, hnone]
  rfl

end StyledText

namespace Screen

/-- A text without tabs is shown with all its characters, the line feeds among them. -/
theorem textOf_eq_chars
    {style : List Char} {read : Option Style} {markup : String} {t : StyledText}
    (hread : Style.read? (Text.words style) = .ok read)
    (hrender : Markup.render markup = .ok t)
    (h : t.StyledAs style)
    (htabs : '\t' ∉ t.chars) :
    textOf markup = .ok (String.ofList t.chars) := by
  have hlines : t.splitLines.map StyledText.expandTabs = t.splitLines := by
    refine (List.map_congr_left (fun line hline => ?_)).trans (List.map_id _)
    refine StyledText.expandTabs_of_not_mem (fun htab => htabs ?_)
    have hpiece : line.chars ∈ Text.pieces (· == '\n') t.chars :=
      t.chars_splitLines ▸ List.mem_map_of_mem hline
    exact Text.mem_of_mem_pieces hpiece htab
  rw [textOf_eq hread hrender h, hlines, t.chars_splitLines, Text.intercalate_pieces]

end Screen

/-! ## Escaped texts -/

namespace Markup

variable {fuel : Nat} {passed s t w : List Char} {pieces : List Piece}

theorem taken_append
    (s t : List Char) :
    taken (s ++ t) = taken s ++ taken t :=
  List.filter_append s t

theorem flatMap_shown_plainBefore
    (hpassed : '\\' ∉ passed) :
    (plainBefore passed pieces).flatMap Piece.shown
      = taken passed.reverse ++ pieces.flatMap Piece.shown := by
  unfold plainBefore
  split
  · rename_i hnone
    obtain rfl := List.isEmpty_iff.1 hnone
    rfl
  · rw [List.flatMap_cons, Piece.shown, unescape_of_not_mem (by simpa using hpassed)]

/-- A text without backslashes does not start with some. -/
theorem eq_zero_of_not_mem_backslashes
    {n : Nat} (h : '\\' ∉ backslashes n ++ s) :
    n = 0 := by
  cases n with
  | zero =>
      rfl
  | succ n =>
      simp [backslashes, List.replicate_succ] at h

/-- The escaped form of a text without backslashes shows the text, behind what was passed before it. -/
theorem Escaped.shown
    (h : Escaped 0 s t)
    (hs : '\\' ∉ s) (hpassed : '\\' ∉ passed)
    (hfuel : t.length ≤ fuel) :
    (piecesFrom fuel passed t).flatMap Piece.shown = taken (passed.reverse ++ s) := by
  -- each case reads one step of the form, as in the proof that it is inert
  induction h generalizing fuel passed with
  | done =>
      have hnone : piecesFrom fuel passed [] = plainBefore passed [] := by
        cases fuel <;> rfl
      rw [show backslashes 0 = [] from rfl, hnone, flatMap_shown_plainBefore hpassed]
      simp
  | @ordinary c s t hc htag h ih =>
      obtain ⟨fuel, rfl⟩ := Nat.exists_eq_succ_of_ne_zero (by
        rw [List.length_cons] at hfuel
        omega : fuel ≠ 0)
      have hstep := piecesFrom_step (n := 0) (s := c :: t) fuel passed (by simpa using hc) (by simp)
      rw [h.tag?_cons_eq_none htag] at hstep
      rw [show c :: t = backslashes 0 ++ c :: t from rfl, hstep]
      have hpassed' : '\\' ∉ c :: passed := by
        simp [hpassed, Ne.symm hc]
      have hrest := ih (fun hmem => hs (List.mem_cons_of_mem c hmem)) hpassed' (Nat.le_of_succ_le_succ hfuel)
      simpa using hrest
  | slashes n hs' htag h ih =>
      exact absurd (eq_zero_of_not_mem_backslashes hs) (Nat.succ_ne_zero n)
  | @mark n body s t hbody h ih =>
      obtain rfl := eq_zero_of_not_mem_backslashes hs
      simp only [List.length_append, backslashes, List.length_replicate] at hfuel
      obtain ⟨fuel, rfl⟩ := Nat.exists_eq_succ_of_ne_zero (by omega : fuel ≠ 0)
      have hstep := piecesFrom_step (n := 1) (s := bracketed body ++ t) fuel passed
        (by simp [bracketed]) (by simp [bracketed])
      rw [hbody] at hstep
      rw [show backslashes (2 * 0 + 1) = backslashes 1 from rfl, hstep, flatMap_shown_plainBefore hpassed,
        List.flatMap_cons, ih (fun hmem => hs (by simp [hmem])) List.not_mem_nil (by omega)]
      simp [Piece.shown, backslashes, taken]

/-- No backslash comes last in the escaped form of a text without backslashes. -/
theorem Escaped.getLast?_ne
    (h : Escaped 0 s t) (hs : '\\' ∉ s) :
    t.getLast? ≠ some '\\' := by
  induction h with
  | done =>
      simp [backslashes]
  | @ordinary c s t hc htag h ih =>
      have hrest := ih (fun hmem => hs (List.mem_cons_of_mem c hmem))
      cases t with
      | nil =>
          simpa using hc
      | cons d t =>
          simpa using hrest
  | slashes n hs' htag h ih =>
      exact absurd (eq_zero_of_not_mem_backslashes hs) (Nat.succ_ne_zero n)
  | @mark n body s t hbody h ih =>
      have hrest := ih (fun hmem => hs (by simp [hmem]))
      cases t with
      | nil =>
          rw [List.append_nil, bracketed, List.getLast?_append, List.getLast?_concat]
          simp
      | cons d t =>
          simpa [List.getLast?_append] using hrest

theorem closeBackslash_of_getLast?_ne
    (h : s.getLast? ≠ some '\\') :
    closeBackslash s = s := by
  unfold closeBackslash
  split
  · rfl
  · rename_i hreverse
    rw [← List.head?_reverse, hreverse] at h
    exact absurd rfl h
  · rfl

/-- Nothing is put behind a text without backslashes when it is escaped. -/
theorem escaped_escape_of_not_mem
    {s : String} (hs : '\\' ∉ s.toList) :
    Escaped 0 s.toList (escape s).toList := by
  obtain ⟨t, ht, hescaped⟩ := escaped_piecesFrom (Nat.le_refl s.toList.length) []
  rw [escape, String.toList_ofList, Markup.pieces, ht, List.reverse_nil, List.nil_append,
    closeBackslash_of_getLast?_ne (hescaped.getLast?_ne hs)]
  exact hescaped

/-- Ordinary characters with an escaped text behind them are shown as they are. -/
theorem shows_escape
    {s : String}
    (hw : ∀ c ∈ w, c ≠ '[' ∧ c ≠ '\\')
    (hs : '\\' ∉ s.toList) :
    Shows (w ++ (escape s).toList) (taken (w ++ s.toList)) := by
  intro fuel hfuel
  rw [List.length_append] at hfuel
  obtain ⟨f, rfl⟩ := Nat.exists_eq_add_of_le (Nat.le_of_add_right_le hfuel)
  have hpassed : '\\' ∉ w.reverse := by
    simpa using fun hmem => (hw _ hmem).2 rfl
  rw [piecesFrom_append hw, List.append_nil, (escaped_escape_of_not_mem hs).shown hs hpassed (by omega),
    List.reverse_reverse]

/-- A text without brackets and backslashes is its own escaped form. -/
theorem escape_of_ordinary
    {s : String} (hs : ∀ c ∈ s.toList, c ≠ '[' ∧ c ≠ '\\') :
    escape s = s := by
  have hmark : ¬ HoldsMark s.toList :=
    not_holdsMark_of_not_mem (fun hmem => (hs _ hmem).1 rfl)
  rw [escape, Markup.pieces, piecesFrom_of_not_holdsMark (Nat.le_refl _) hmark, flatMap_plainBefore]
  rw [List.append_nil, List.reverse_reverse, List.flatMap_nil, List.append_nil,
    closeBackslash_of_getLast?_ne, String.ofList_toList]
  intro hlast
  exact (hs _ (List.mem_of_getLast? hlast)).2 rfl

end Markup

/-! ## Diagnostics -/

namespace Screen

/-- A text is shown as it is: it has no backslash, no tab, and no control that the screen ignores. -/
def IsVerbatim (s : String) : Prop :=
  ∀ c ∈ s.toList, c ≠ '\\' ∧ c ≠ '\t' ∧ Markup.isIgnored c = false

theorem IsVerbatim.append
    {s t : String} (hs : IsVerbatim s) (ht : IsVerbatim t) :
    IsVerbatim (s ++ t) := by
  intro c hc
  rw [String.toList_append, List.mem_append] at hc
  rcases hc with hc | hc
  · exact hs c hc
  · exact ht c hc

theorem IsVerbatim.taken_eq
    {s : String} (h : IsVerbatim s) :
    Markup.taken s.toList = s.toList :=
  List.filter_eq_self.2 (fun c hc => by simp [(h c hc).2.2])

theorem isVerbatim_of_all
    {s : String} (h : s.toList.all (fun c => c != '\\' && c != '\t' && !Markup.isIgnored c) = true) :
    IsVerbatim s := by
  simpa [IsVerbatim, and_assoc] using h

/-- The user sees a diagnostic as the word for it, its step between brackets, and its text. -/
theorem textOf_diagnostic_eq
    {d : Diagnostic}
    (hbracket : '[' ∉ d.step.toList)
    (hstep : IsVerbatim d.step) (htext : IsVerbatim d.text) :
    textOf (diagnosticMarkup d) = .ok ("Error (" ++ d.step ++ "): " ++ d.text) := by
  have hordinary : ∀ c ∈ d.step.toList, c ≠ '[' ∧ c ≠ '\\' :=
    fun c hc => ⟨ne_of_mem_of_not_mem hc hbracket, (hstep c hc).1⟩
  have hsame : Markup.escape d.step = d.step :=
    Markup.escape_of_ordinary hordinary
  obtain ⟨t, hrender, hstyled, hshows⟩ := render_diagnostic (hsame.symm ▸ hordinary)
  rw [hsame] at hshows
  have hword : IsVerbatim "Error (" := isVerbatim_of_all (by decide)
  have hcolon : IsVerbatim "): " := isVerbatim_of_all (by decide)
  have hmessage : IsVerbatim ("Error (" ++ d.step ++ "): " ++ d.text) :=
    ((hword.append hstep).append hcolon).append htext
  have hchars : t.chars = ("Error (" ++ d.step ++ "): " ++ d.text).toList := by
    rw [hshows _ (Markup.shows_escape (ordinary_step hordinary) (fun hmem => (htext _ hmem).1 rfl)),
      ← hmessage.taken_eq, ← Markup.taken_append]
    refine congrArg Markup.taken ?_
    simp
  have htabs : '\t' ∉ t.chars :=
    fun hmem => (hmessage _ (hchars ▸ hmem)).2.1 rfl
  rw [textOf_eq_chars read?_red hrender hstyled htabs, hchars, String.ofList_toList]

end Screen
end Killswitch
