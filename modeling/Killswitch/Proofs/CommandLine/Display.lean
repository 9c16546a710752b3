import Killswitch.CommandLine.Screen

/-!
# Texts that can be shown

A text in markup may fail to be shown: where a mark closes what is not open, or where a style cannot be
judged. A text whose own marks fit is shown whatever is put into it, as long as nothing of that is a mark.
A mark may also begin in one of two texts and end in the other, so this is asked of the text as a whole.

**Results.**
* `StyledText.StyledAs`: all parts of a text are of one style; cutting, joining and filling keep this;
* `Markup.HoldsMark`, `piecesFrom_of_not_holdsMark`: a text without marks is one piece;
* `Markup.Inert`, `inert_of_not_holdsMark`: a text that opens and closes nothing;
* `Markup.Piece.shown`, `Markup.Shows`: the characters that a text shows;
* `Markup.render_between`: a text with one part between an opening and a closing mark;
* `Screen.textOf_eq`: a text of one style is shown with all its lines;
* `Screen.textOf_enabled`: what is shown when the lock has been put on;
* `Screen.withoutSequences_of_not_mem`: what is written as it is.
-/

namespace Killswitch

/-! ## The styles of parts -/

namespace StyledText

variable {style : List Char} {t u : StyledText}

/-- All parts of a text are of one style. -/
def StyledAs (style : List Char) (t : StyledText) : Prop :=
  ∀ part ∈ t.parts, part.style = style

theorem StyledAs.slice
    (h : t.StyledAs style) (start stop : Nat) :
    (t.slice start stop).StyledAs style := by
  intro part hpart
  obtain ⟨original, horiginal, rfl⟩ := List.mem_map.1 (List.mem_filter.1 hpart).1
  exact h original horiginal

theorem StyledAs.sliceFrom
    (h : t.StyledAs style) (start : Nat) :
    (t.sliceFrom start).StyledAs style := by
  intro part hpart
  obtain ⟨original, horiginal, rfl⟩ := List.mem_map.1 (List.mem_filter.1 hpart).1
  exact h original horiginal

theorem StyledAs.slicesFrom
    (h : t.StyledAs style) (place : Nat) (cuts : List Nat) :
    ∀ u ∈ slicesFrom place t cuts, u.StyledAs style := by
  induction cuts generalizing t place with
  | nil =>
      simpa [StyledText.slicesFrom] using h.sliceFrom 0
  | cons cut cuts ih =>
      intro u hu
      rcases List.mem_cons.1 hu with rfl | hu
      · exact h.slice 0 (cut - place)
      · exact ih (h.sliceFrom (cut - place)) cut u hu

theorem StyledAs.divide
    (h : t.StyledAs style) (cuts : List Nat) :
    ∀ u ∈ t.divide cuts, u.StyledAs style := by
  unfold StyledText.divide
  split
  · simpa using h
  · exact h.slicesFrom 0 cuts

theorem StyledAs.append
    (h : t.StyledAs style) (hu : u.StyledAs style) :
    (t.append u).StyledAs style := by
  intro part hpart
  rcases List.mem_append.1 hpart with hpart | hpart
  · exact h part hpart
  · obtain ⟨original, horiginal, rfl⟩ := List.mem_map.1 hpart
    exact hu original horiginal

theorem styledAs_join
    {ts : List StyledText} (h : ∀ t ∈ ts, t.StyledAs style) :
    (join ts).StyledAs style := by
  induction ts with
  | nil =>
      simp [join, plain, StyledAs]
  | cons t ts ih =>
      exact (h t List.mem_cons_self).append (ih (fun u hu => h u (List.mem_cons_of_mem t hu)))

theorem StyledAs.spread
    (h : t.StyledAs style) (column : Nat) :
    (t.spread column).1.StyledAs style := by
  unfold StyledText.spread
  split
  · intro part hpart
    obtain ⟨original, horiginal, rfl⟩ := List.mem_map.1 hpart
    split
    · exact h original horiginal
    · exact h original horiginal
  · exact h

theorem styledAs_spreadAll
    {ts : List StyledText} (h : ∀ t ∈ ts, t.StyledAs style) (column : Nat) :
    ∀ t ∈ spreadAll column ts, t.StyledAs style := by
  induction ts generalizing column with
  | nil =>
      simp [spreadAll]
  | cons t ts ih =>
      intro u hu
      rcases List.mem_cons.1 hu with rfl | hu
      · exact (h t List.mem_cons_self).spread column
      · exact ih (fun v hv => h v (List.mem_cons_of_mem t hv)) _ u hu

theorem StyledAs.splitLines
    (h : t.StyledAs style) :
    ∀ line ∈ t.splitLines, line.StyledAs style := by
  intro line hline
  obtain ⟨⟨original, i⟩, hmem, rfl⟩ := List.mem_map.1 hline
  have horiginal := h.divide _ original (List.fst_mem_of_mem_zipIdx hmem)
  dsimp only
  split
  · exact horiginal.slice 0 _
  · exact horiginal

theorem StyledAs.expandTabs
    (h : t.StyledAs style) :
    t.expandTabs.StyledAs style := by
  unfold StyledText.expandTabs
  dsimp only
  split
  · exact h
  · exact styledAs_join (styledAs_spreadAll (h.divide _) 0)

end StyledText

namespace Screen

theorem forM_ok
    {α : Type} {f : α → Except Failure Unit} {items : List α}
    (h : ∀ x ∈ items, f x = .ok ()) :
    items.forM f = .ok () := by
  induction items with
  | nil =>
      rfl
  | cons x items ih =>
      have hx := h x List.mem_cons_self
      have hrest := ih (fun y hy => h y (List.mem_cons_of_mem x hy))
      rw [List.forM, hx]
      exact hrest

/-- A text whose parts are of a style that can be judged passes. -/
theorem checkStyles_ok
    {style : List Char} {read : Option Style} {t : StyledText}
    (hread : Style.read? (Text.words style) = .ok read)
    (h : t.StyledAs style) :
    checkStyles t = .ok () := by
  refine forM_ok (fun part hpart => ?_)
  rw [h part hpart, hread]
  rfl

/-- A text in markup is shown where all its parts are of a style that can be judged. -/
theorem textOf_eq
    {style : List Char} {read : Option Style} {markup : String} {t : StyledText}
    (hread : Style.read? (Text.words style) = .ok read)
    (hrender : Markup.render markup = .ok t)
    (h : t.StyledAs style) :
    textOf markup = .ok (String.ofList
      (['\n'].intercalate ((t.splitLines.map StyledText.expandTabs).map StyledText.chars))) := by
  have hlines : (t.splitLines.map StyledText.expandTabs).forM checkStyles = .ok () := by
    refine forM_ok (fun line hline => ?_)
    obtain ⟨original, horiginal, rfl⟩ := List.mem_map.1 hline
    exact checkStyles_ok hread (h.splitLines original horiginal).expandTabs
  simp only [textOf, hrender, bind, Except.bind, hlines]
  rfl

end Screen

/-! ## Pieces of markup -/

namespace Markup

/-- A mark begins somewhere in a text. -/
def HoldsMark (s : List Char) : Prop :=
  ∃ before beyond, s = before ++ beyond ∧ (tag? beyond).isSome

section Pieces

variable {fuel : Nat} {passed s w : List Char} {c : Char}

theorem tag?_eq_none
    (hc : c ≠ '[') :
    tag? (c :: s) = none := by
  unfold tag?
  split
  · rename_i heq
    exact absurd (List.cons.inj heq).1 hc
  · rfl

theorem HoldsMark.of_append
    (hw : '[' ∉ w)
    (h : HoldsMark (w ++ s)) :
    HoldsMark s := by
  induction w with
  | nil =>
      exact h
  | cons c w ih =>
      refine ih (fun hmem => hw (List.mem_cons_of_mem c hmem)) ?_
      obtain ⟨before, beyond, heq, htag⟩ := h
      cases before with
      | nil =>
          have hc : c ≠ '[' := fun hc => hw (by simp [hc])
          rw [← show _ = beyond from heq, List.cons_append, tag?_eq_none hc] at htag
          simp at htag
      | cons d before =>
          exact ⟨before, beyond, (List.cons.inj heq).2, htag⟩

theorem not_holdsMark_of_not_mem
    (hs : '[' ∉ s) :
    ¬ HoldsMark s := by
  intro h
  obtain ⟨before, beyond, heq, htag⟩ := HoldsMark.of_append (s := []) hs (by rwa [List.append_nil])
  obtain ⟨-, rfl⟩ := List.append_eq_nil_iff.1 heq.symm
  simp [tag?] at htag

theorem not_holdsMark_drop
    (h : ¬ HoldsMark s) (n : Nat) :
    ¬ HoldsMark (s.drop n) := by
  rintro ⟨before, beyond, heq, htag⟩
  refine h ⟨s.take n ++ before, beyond, ?_, htag⟩
  rw [List.append_assoc, ← heq, List.take_append_drop]

/-- An ordinary character is passed. -/
theorem piecesFrom_ordinary
    (hbracket : c ≠ '[') (hslash : c ≠ '\\') :
    piecesFrom (fuel + 1) passed (c :: s) = piecesFrom fuel (c :: passed) s := by
  have hslashes : (c :: s).takeWhile (· == '\\') = [] := by
    simp [hslash]
  simp only [piecesFrom, hslashes, List.length_nil, List.drop_zero, tag?_eq_none hbracket,
    List.isEmpty_nil, if_true]

/-- That all characters of a text are ordinary can be judged one by one. -/
theorem ordinary_of_all
    (hw : w.all (fun c => c != '[' && c != '\\') = true) :
    ∀ c ∈ w, c ≠ '[' ∧ c ≠ '\\' := by
  simpa using hw

/-- Ordinary characters are passed one after the other. -/
theorem piecesFrom_append
    (hw : ∀ c ∈ w, c ≠ '[' ∧ c ≠ '\\') :
    piecesFrom (w.length + fuel) passed (w ++ s) = piecesFrom fuel (w.reverse ++ passed) s := by
  induction w generalizing passed with
  | nil =>
      simp
  | cons c w ih =>
      have hc := hw c List.mem_cons_self
      rw [List.length_cons, Nat.add_right_comm, List.cons_append, piecesFrom_ordinary hc.1 hc.2,
        ih (fun d hd => hw d (List.mem_cons_of_mem c hd))]
      simp

/-- A mark without backslashes ends the ordinary characters before it. -/
theorem piecesFrom_mark
    (fuel : Nat) (passed : List Char) {body after : List Char}
    (htag : tag? ('[' :: s) = some (body, after)) :
    piecesFrom (fuel + 1) passed ('[' :: s) =
      plainBefore passed (.mark 0 body :: piecesFrom fuel [] after) := by
  have hslashes : ('[' :: s).takeWhile (· == '\\') = [] := by
    simp
  simp only [piecesFrom, hslashes, List.length_nil, List.drop_zero, htag]

/-- Backslashes in front of a text read the same from behind. -/
theorem reverse_slashes (s : List Char) :
    (s.takeWhile (· == '\\')).reverse = s.takeWhile (· == '\\') := by
  have hall : ∀ c ∈ s.takeWhile (· == '\\'), c = '\\' := by
    intro c hc
    simpa using List.all_eq_true.1 List.all_takeWhile c hc
  rw [List.eq_replicate_of_mem hall, List.reverse_replicate]

theorem reverse_drop_slashes (s : List Char) :
    (s.drop (s.takeWhile (· == '\\')).length).reverse ++ s.takeWhile (· == '\\') = s.reverse := by
  obtain ⟨t, ht⟩ := List.takeWhile_prefix (l := s) (· == '\\')
  have hdrop : s.drop (s.takeWhile (· == '\\')).length = t := by
    have hleft : (s.takeWhile (· == '\\') ++ t).drop (s.takeWhile (· == '\\')).length = t :=
      List.drop_left
    rwa [ht] at hleft
  have hreverse := congrArg List.reverse ht
  rw [List.reverse_append, reverse_slashes] at hreverse
  rw [hdrop, hreverse]

/-- A text without marks is one piece with the ordinary characters before it. -/
theorem piecesFrom_of_not_holdsMark
    (hfuel : s.length ≤ fuel)
    (h : ¬ HoldsMark s) :
    piecesFrom fuel passed s = plainBefore (s.reverse ++ passed) [] := by
  induction fuel generalizing passed s with
  | zero =>
      obtain rfl : s = [] := by
        simpa using hfuel
      simp [piecesFrom, plainBefore]
  | succ fuel ih =>
      cases s with
      | nil =>
          simp [piecesFrom]
      | cons c s =>
          have hbeyond : ∀ n, tag? ((c :: s).drop n) = none := by
            intro n
            refine Option.not_isSome_iff_eq_none.1 (fun hsome => ?_)
            exact not_holdsMark_drop h n ⟨[], _, rfl, hsome⟩
          have hfuel' : s.length ≤ fuel := by
            simpa using hfuel
          simp only [piecesFrom, hbeyond]
          split
          · rw [ih hfuel' (not_holdsMark_drop h 1)]
            simp
          · rename_i hslashes
            have hshort : ((c :: s).drop ((c :: s).takeWhile (· == '\\')).length).length ≤ fuel := by
              have hpos : 0 < ((c :: s).takeWhile (· == '\\')).length := by
                simpa [List.length_pos_iff] using hslashes
              rw [List.length_drop]
              omega
            rw [ih hshort (not_holdsMark_drop h _), ← List.append_assoc, reverse_drop_slashes]

theorem tag?_bracketed
    {body : List Char}
    (hc : opensMark c = true)
    (hbody : body.all isInside = true) :
    tag? ('[' :: c :: body ++ ']' :: s) = some (c :: body, s) := by
  have hend : isInside ']' = false := by
    decide
  have hdrop : (body ++ ']' :: s).dropWhile isInside = ']' :: s := by
    rw [List.dropWhile_append_of_pos (List.all_eq_true.1 hbody), List.dropWhile_cons, hend]
    rfl
  have htake : (body ++ ']' :: s).takeWhile isInside = body := by
    rw [List.takeWhile_append_of_pos (List.all_eq_true.1 hbody), List.takeWhile_cons, hend]
    simp
  simp only [List.cons_append, tag?, hc, if_true, hdrop, htake]

end Pieces

/-! ## Texts that change no style -/

/-- A piece that opens and closes nothing: ordinary characters, or a mark that is made ordinary. -/
def Piece.IsInert : Piece → Prop
  | .plain _ => True
  | .mark n _ => n % 2 = 1

/-- A text that opens and closes nothing: all its marks are made ordinary. -/
def Inert (s : List Char) : Prop :=
  ∀ fuel passed, s.length ≤ fuel → ∀ piece ∈ piecesFrom fuel passed s, piece.IsInert

section Inert

variable {passed s w : List Char} {pieces : List Piece}

theorem isInert_of_mem_plainBefore
    (hpieces : ∀ piece ∈ pieces, piece.IsInert) :
    ∀ piece ∈ plainBefore passed pieces, piece.IsInert := by
  unfold plainBefore
  split
  · exact hpieces
  · intro piece hpiece
    rcases List.mem_cons.1 hpiece with rfl | hpiece
    · trivial
    · exact hpieces piece hpiece

theorem inert_of_not_holdsMark
    (h : ¬ HoldsMark s) :
    Inert s := by
  intro fuel passed hfuel
  rw [piecesFrom_of_not_holdsMark hfuel h]
  exact isInert_of_mem_plainBefore (by simp)

/-- Ordinary characters may stand in front of such a text. -/
theorem Inert.append_ordinary
    (hw : ∀ c ∈ w, c ≠ '[' ∧ c ≠ '\\')
    (h : Inert s) :
    Inert (w ++ s) := by
  intro fuel passed hfuel
  rw [List.length_append] at hfuel
  obtain ⟨f, rfl⟩ := Nat.exists_eq_add_of_le (Nat.le_of_add_right_le hfuel)
  rw [piecesFrom_append hw]
  exact h f _ (Nat.le_of_add_le_add_left hfuel)

/-- What the screen shows of such a piece. -/
def Piece.shown : Piece → List Char
  | .plain s => taken (unescape s)
  | .mark n body => taken (backslashes (n / 2)) ++ taken (bracketed body)

/-- Such pieces are shown whatever has been opened before. -/
theorem showFrom_inert
    (hpieces : ∀ piece ∈ pieces, piece.IsInert)
    (s : Shown) (position : Nat) :
    ∃ t, showFrom s position pieces = .ok t
      ∧ t.chars = (pieces.flatMap Piece.shown).reverse ++ s.chars
      ∧ t.parts = s.parts
      ∧ t.opened = s.opened := by
  induction pieces generalizing s position with
  | nil =>
      exact ⟨s, rfl, rfl, rfl, rfl⟩
  | cons piece pieces ih =>
      have hrest : ∀ piece ∈ pieces, piece.IsInert :=
        fun p hp => hpieces p (List.mem_cons_of_mem piece hp)
      cases piece with
      | plain chars =>
          obtain ⟨t, hshown, hchars, hsame⟩ := ih hrest (s.show (unescape chars)) _
          refine ⟨t, hshown, ?_, hsame⟩
          rw [hchars]
          simp [Shown.show, Piece.shown]
      | mark n body =>
          have hodd : n % 2 = 1 := hpieces _ List.mem_cons_self
          rw [showFrom, if_pos hodd]
          obtain ⟨t, hshown, hchars, hsame⟩ :=
            ih hrest ((s.show (backslashes (n / 2))).show (bracketed body)) _
          refine ⟨t, hshown, ?_, hsame⟩
          rw [hchars]
          simp [Shown.show, Piece.shown]

/-- The screen shows a text that opens and closes nothing as another one. -/
def Shows (s shown : List Char) : Prop :=
  ∀ fuel, s.length ≤ fuel → (piecesFrom fuel [] s).flatMap Piece.shown = shown

theorem unescape_of_not_mem
    (hs : '\\' ∉ s) :
    unescape s = s := by
  induction s with
  | nil =>
      rfl
  | cons c s ih =>
      obtain ⟨hc, hs⟩ := List.ne_and_not_mem_of_not_mem_cons hs
      rw [unescape, ih hs]
      rintro rest rfl
      exact absurd rfl hc

end Inert

/-! ## A part between two marks -/

/-- A name in its usual form that opens a style, and closes it behind a slash. -/
structure StyleName (name : List Char) : Prop where
  opens : name.head?.any opensMark = true
  inside : name.all isInside = true
  noSlash : name.head? ≠ some '/'
  noAction : name.head? ≠ some '@'
  uncut : Text.cutAt '=' name = (name, none)
  spelled : (Text.trim name).isEmpty = false
  usual : Style.nameOf name = .ok name

namespace StyleName

variable {name : List Char} {s : Shown} {position : Nat}

theorem tag?_open
    (h : StyleName name) (after : List Char) :
    tag? ('[' :: name ++ ']' :: after) = some (name, after) := by
  cases name with
  | nil =>
      simpa using h.opens
  | cons c body =>
      have hinside := h.inside
      rw [List.all_cons, Bool.and_eq_true] at hinside
      exact tag?_bracketed (by simpa using h.opens) hinside.2

theorem tag?_close
    (h : StyleName name) (after : List Char) :
    tag? ('[' :: '/' :: name ++ ']' :: after) = some ('/' :: name, after) :=
  tag?_bracketed rfl h.inside

/-- A style is opened. -/
theorem apply_open
    (h : StyleName name) :
    s.apply position name = .ok { s with opened := ⟨name, s.place, none⟩ :: s.opened } := by
  unfold Shown.apply
  rw [h.uncut]
  split
  · rename_i rest _ heq
    obtain rfl := (Prod.mk.inj heq).1
    exact absurd rfl h.noSlash
  · rename_i heq
    obtain ⟨rfl, rfl⟩ := Prod.mk.inj heq
    rw [h.usual]
    rfl

/-- The style that was opened last is closed. -/
theorem apply_close
    {place : Nat} {rest : List Opened}
    (h : StyleName name)
    (hopened : s.opened = ⟨name, place, none⟩ :: rest) :
    s.apply position ('/' :: name) = .ok (s.close ⟨name, place, none⟩) := by
  have hcut : Text.cutAt '=' ('/' :: name) = ('/' :: name, none) := by
    rw [Text.cutAt, if_neg (by decide), h.uncut]
  have hfind : s.opened.find? (fun o => o.name == name) = some ⟨name, place, none⟩ := by
    rw [hopened]
    simp
  unfold Shown.apply
  simp only [hcut, h.spelled, Bool.false_eq_true, if_false, h.usual]
  simp only [bind, Except.bind, hfind]
  rfl

end StyleName

section Between

variable {name before middle after : List Char}

/-- A text with a part between an opening and a closing mark. -/
def between (name before middle after : List Char) : List Char :=
  before ++ ('[' :: name ++ ']' :: (middle ++ ('[' :: '/' :: name ++ ']' :: after)))

/-- The pieces of a text with a part between two marks. -/
theorem piecesFrom_between
    {fuel : Nat}
    (after : List Char)
    (h : StyleName name)
    (hbefore : ∀ c ∈ before, c ≠ '[' ∧ c ≠ '\\')
    (hmiddle : ∀ c ∈ middle, c ≠ '[' ∧ c ≠ '\\')
    (hfuel : (between name before middle after).length ≤ fuel) :
    ∃ f, after.length ≤ f ∧ piecesFrom fuel [] (between name before middle after) =
      plainBefore before.reverse (.mark 0 name ::
        plainBefore middle.reverse (.mark 0 ('/' :: name) :: piecesFrom f [] after)) := by
  simp only [between, List.length_append, List.length_cons] at hfuel
  obtain ⟨f, rfl⟩ : ∃ f, fuel = before.length + (middle.length + (f + 1) + 1) :=
    ⟨fuel - before.length - 1 - middle.length - 1, by omega⟩
  have hclose := piecesFrom_mark f middle.reverse (h.tag?_close after)
  have hopen := piecesFrom_mark (middle.length + (f + 1)) before.reverse
    (h.tag?_open (middle ++ ('[' :: '/' :: name ++ ']' :: after)))
  refine ⟨f, by omega, ?_⟩
  rw [between, piecesFrom_append hbefore, List.append_nil]
  refine hopen.trans ?_
  rw [piecesFrom_append hmiddle, List.append_nil]
  exact congrArg (fun ps => plainBefore before.reverse (.mark 0 name :: ps)) hclose

/-- Ordinary characters open and close nothing. -/
theorem showFrom_plainBefore
    (s : Shown) (position : Nat) (passed : List Char) (pieces : List Piece) :
    ∃ s' position', showFrom s position (plainBefore passed pieces) = showFrom s' position' pieces
      ∧ s'.chars = (taken (unescape passed.reverse)).reverse ++ s.chars
      ∧ s'.parts = s.parts
      ∧ s'.opened = s.opened := by
  unfold plainBefore
  split
  · rename_i hpassed
    obtain rfl := List.isEmpty_iff.1 hpassed
    exact ⟨s, position, rfl, rfl, rfl, rfl⟩
  · exact ⟨_, _, rfl, rfl, rfl, rfl⟩

theorem showFrom_mark
    {s s' : Shown} {position : Nat} {body : List Char} {pieces : List Piece}
    (happly : (s.show (backslashes 0)).apply (position + 0) body = .ok s') :
    showFrom s position (.mark 0 body :: pieces) =
      showFrom s' (position + (Piece.mark 0 body).length) pieces := by
  rw [showFrom]
  simp only [Nat.zero_div, Nat.zero_mod, happly]
  rfl

/-- The marks around a part add one part in their style, and leave nothing open. -/
theorem showFrom_between
    {rest : List Piece}
    (h : StyleName name)
    (hrest : ∀ piece ∈ rest, piece.IsInert)
    (s : Shown) (position : Nat) (before middle : List Char) :
    ∃ t, showFrom s position (plainBefore before (.mark 0 name ::
          plainBefore middle (.mark 0 ('/' :: name) :: rest))) = .ok t
      ∧ t.chars = (taken (unescape before.reverse) ++ taken (unescape middle.reverse)
          ++ rest.flatMap Piece.shown).reverse ++ s.chars
      ∧ (∃ part, t.parts = part :: s.parts ∧ part.style = name)
      ∧ t.opened = s.opened := by
  obtain ⟨first, place, hfirst, hchars, hparts, hopened⟩ := showFrom_plainBefore s position before
    (.mark 0 name :: plainBefore middle (.mark 0 ('/' :: name) :: rest))
  let o : Opened := ⟨name, (first.show (backslashes 0)).place, none⟩
  obtain ⟨second, place', hsecond, hchars', hparts', hopened'⟩ := showFrom_plainBefore
    { first.show (backslashes 0) with opened := o :: first.opened }
    (place + (Piece.mark 0 name).length) middle (.mark 0 ('/' :: name) :: rest)
  obtain ⟨third, hthird, hchars'', hparts'', hopened''⟩ := showFrom_inert hrest
    ((second.show (backslashes 0)).close o) (place' + (Piece.mark 0 ('/' :: name)).length)
  have hclosed : (second.show (backslashes 0)).opened = o :: first.opened :=
    hopened'
  refine ⟨third, ?_, ?_, ⟨⟨o.start, (second.show (backslashes 0)).place, o.style⟩, ?_, ?_⟩, ?_⟩
  · rw [hfirst, showFrom_mark h.apply_open]
    refine hsecond.trans ?_
    rw [showFrom_mark (h.apply_close hclosed)]
    exact hthird
  · rw [hchars'', show ((second.show (backslashes 0)).close o).chars = second.chars from rfl, hchars',
      show (first.show (backslashes 0)).chars = first.chars from rfl, hchars]
    simp
  · rw [hparts'', Shown.close]
    exact congrArg _ (hparts'.trans hparts)
  · simp [o, Opened.style, Opened.isAction, h.noAction]
  · rw [hopened'', Shown.close, hclosed]
    simpa using hopened

/-- A text with one part between an opening and a closing mark, where nothing is opened behind them, is
shown with that part in the style of the marks, and without the marks. -/
theorem render_between
    (before middle : List Char)
    (h : StyleName name)
    (hbefore : ∀ c ∈ before, c ≠ '[' ∧ c ≠ '\\')
    (hmiddle : ∀ c ∈ middle, c ≠ '[' ∧ c ≠ '\\')
    (hafter : Inert after) :
    ∃ t, render (String.ofList (between name before middle after)) = .ok t
      ∧ t.StyledAs name
      ∧ ∀ shown, Shows after shown → t.chars = taken before ++ taken middle ++ shown := by
  obtain ⟨f, hf, hpieces⟩ := piecesFrom_between after h hbefore hmiddle (Nat.le_refl _)
  obtain ⟨s, hshown, hchars, ⟨part, hparts, hstyle⟩, hopened⟩ :=
    showFrom_between h (hafter f [] hf) .nothing 0 before.reverse middle.reverse
  have hbracket : (between name before middle after).contains '[' = true := by
    simp [between]
  refine ⟨s.finish, ?_, ?_, ?_⟩
  · rw [render, String.toList_ofList, if_pos hbracket, pieces, hpieces, hshown]
    rfl
  · intro shown hmem
    have hone : shown ∈ s.parts := by
      simpa [Shown.finish, hopened, Shown.nothing] using hmem
    rw [hparts] at hone
    obtain rfl : shown = part := by
      simpa [Shown.nothing] using hone
    exact hstyle
  · intro shown hshows
    rw [Shown.finish, hchars, hshows f hf, List.reverse_reverse, List.reverse_reverse,
      unescape_of_not_mem (fun hmem => (hbefore _ hmem).2 rfl),
      unescape_of_not_mem (fun hmem => (hmiddle _ hmem).2 rfl)]
    simp [Shown.nothing]

end Between
end Markup

namespace Screen

theorem withoutSequencesFrom_of_not_mem
    {fuel : Nat} {s : List Char} (hs : '\x1b' ∉ s) :
    withoutSequencesFrom fuel s = s := by
  induction fuel generalizing s with
  | zero =>
      rfl
  | succ fuel ih =>
      cases s with
      | nil =>
          rfl
      | cons c rest =>
          obtain ⟨hc, hrest⟩ := List.ne_and_not_mem_of_not_mem_cons hs
          rw [withoutSequencesFrom, if_neg (Ne.symm hc), ih hrest]

/-- A text in which no control sequence begins is written as it is. -/
theorem withoutSequences_of_not_mem
    {s : String} (hs : '\x1b' ∉ s.toList) :
    withoutSequences s = s := by
  rw [withoutSequences, withoutSequencesFrom_of_not_mem hs, String.ofList_toList]

end Screen
end Killswitch
