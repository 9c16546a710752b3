import Killswitch.Proofs.CommandLine.Display

/-!
# Escaped texts

A text that comes from elsewhere is escaped before it is shown: each of its marks gets one backslash more
than twice those it has, so that an odd number of them stands in front of it. This makes the marks ordinary,
but it also moves the characters behind a bracket, and a bracket that began no mark must not begin one now.
It does not: what comes behind it is either what came there before, or a backslash, with which no mark
begins; and the next bracket is of the same kind as before.

**Results.**
* `Escaped`: a text and its escaped form, as both are read piece by piece;
* `escaped_escape`: the escaped form is made in this way;
* `Escaped.tag?_eq_none`, `Escaped.inert`: no bracket begins a mark that it did not begin before, and the
  escaped form opens and closes nothing;
* `Screen.textOf_escape`: an escaped text can be shown;
* `Screen.render_diagnostic`, `Screen.textOf_diagnostic`: so can a diagnostic, and in which style;
* `Screen.textOf_undiagnosed`, `Screen.tableText_undiagnosed`: markup that does not fit is no diagnostic.
-/

namespace Killswitch
namespace Markup

/-! ## Reading a text piece by piece -/

section Reading

variable {fuel n : Nat} {passed s body after : List Char} {c : Char}

/-- A text starts with some backslashes, and goes on with another character. -/
theorem exists_backslashes (s : List Char) :
    ∃ n beyond, s = backslashes n ++ beyond ∧ beyond.head? ≠ some '\\' := by
  induction s with
  | nil =>
      exact ⟨0, [], rfl, by simp⟩
  | cons c s ih =>
      by_cases hc : c = '\\'
      · obtain ⟨n, beyond, rfl, hbeyond⟩ := ih
        exact ⟨n + 1, beyond, by rw [hc]; rfl, hbeyond⟩
      · exact ⟨0, c :: s, rfl, by simpa using hc⟩

theorem takeWhile_backslashes
    (n : Nat) (hs : s.head? ≠ some '\\') :
    (backslashes n ++ s).takeWhile (· == '\\') = backslashes n := by
  have hnone : s.takeWhile (· == '\\') = [] := by
    cases s with
    | nil =>
        rfl
    | cons c s =>
        have hc : c ≠ '\\' := by
          simpa using hs
        simp [hc]
  rw [List.takeWhile_append_of_pos (by simp [backslashes]), hnone, List.append_nil]

/-- A mark with its brackets is one in front of any text. -/
theorem tag?_eq_some
    (htag : tag? s = some (body, after)) :
    s = bracketed body ++ after ∧ ∀ x, tag? (bracketed body ++ x) = some (body, x) := by
  unfold tag? at htag
  split at htag
  · rename_i c rest
    split at htag
    · rename_i hopens
      split at htag
      · rename_i hdrop
        obtain ⟨rfl, rfl⟩ := Prod.mk.inj (Option.some.inj htag)
        refine ⟨?_, fun x => ?_⟩
        · have hsplit := List.takeWhile_append_dropWhile (p := isInside) (l := rest)
          rw [hdrop] at hsplit
          simpa [bracketed] using hsplit.symm
        · have htag := tag?_bracketed (s := x) hopens (List.all_takeWhile (p := isInside) (l := rest))
          simpa [bracketed] using htag
      · contradiction
    · contradiction
  · contradiction

theorem isInside_of_opensMark
    (hc : opensMark c = true) :
    isInside c = true := by
  have hopening : c ≠ '[' := by
    rintro rfl
    contradiction
  have hclosing : c ≠ ']' := by
    rintro rfl
    contradiction
  simp [isInside, hopening, hclosing]

/-- A bracket begins no mark where it is not followed by a name that is closed. -/
theorem tag?_bracket_eq_none_iff :
    tag? ('[' :: s) = none
      ↔ ∀ c, s.head? = some c → opensMark c = true → (s.dropWhile isInside).head? ≠ some ']' := by
  cases s with
  | nil =>
      simp [tag?]
  | cons c rest =>
      by_cases hopens : opensMark c = true
      · have hdrop : (c :: rest).dropWhile isInside = rest.dropWhile isInside := by
          rw [List.dropWhile_cons, isInside_of_opensMark hopens]
          rfl
        simp only [tag?, hopens, if_true, hdrop, List.head?_cons, Option.some.injEq, forall_eq',
          forall_const]
        split
        · rename_i hclosed
          simp [hclosed]
        · rename_i hnot
          simp only [true_iff]
          intro hhead
          obtain ⟨after, hclosed⟩ := List.head?_eq_some_iff.1 hhead
          exact hnot after hclosed
      · simp [tag?, hopens]

/-- One step through a text that starts with some backslashes. -/
theorem piecesFrom_step
    (fuel : Nat) (passed : List Char)
    (hs : s.head? ≠ some '\\')
    (htext : backslashes n ++ s ≠ []) :
    piecesFrom (fuel + 1) passed (backslashes n ++ s) =
      match tag? s with
      | some (body, after) => plainBefore passed (.mark n body :: piecesFrom fuel [] after)
      | none =>
          if n = 0 then piecesFrom fuel (s.take 1 ++ passed) (s.drop 1)
          else piecesFrom fuel (backslashes n ++ passed) s := by
  have hslashes := takeWhile_backslashes n hs
  have hlength : (backslashes n).length = n := List.length_replicate
  have hdrop : (backslashes n ++ s).drop n = s := by
    rw [List.drop_append_of_le_length (by omega), List.drop_of_length_le (by omega), List.nil_append]
  cases htext' : backslashes n ++ s with
  | nil =>
      contradiction
  | cons c rest =>
      rw [htext'] at hslashes hdrop
      simp only [piecesFrom, hslashes, hlength, hdrop]
      cases tag? s with
      | some found =>
          rfl
      | none =>
          cases n with
          | zero =>
              obtain rfl : s = c :: rest := htext'
              rfl
          | succ n =>
              rfl

end Reading

/-! ## Escaped forms -/

/-- A text and its escaped form, as both are read from the left: ordinary characters and backslashes are
kept, and a mark is made ordinary. At the end there are some backslashes more. -/
inductive Escaped (more : Nat) : List Char → List Char → Prop where
  | done :
      Escaped more [] (backslashes more)
  | ordinary {c : Char} {s t : List Char}
      (hc : c ≠ '\\')
      (htag : tag? (c :: s) = none)
      (h : Escaped more s t) :
      Escaped more (c :: s) (c :: t)
  | slashes (n : Nat) {s t : List Char}
      (hs : s.head? ≠ some '\\')
      (htag : tag? s = none)
      (h : Escaped more s t) :
      Escaped more (backslashes (n + 1) ++ s) (backslashes (n + 1) ++ t)
  | mark (n : Nat) {body s t : List Char}
      (hbody : ∀ x, tag? (bracketed body ++ x) = some (body, x))
      (h : Escaped more s t) :
      Escaped more (backslashes n ++ (bracketed body ++ s))
        (backslashes (2 * n + 1) ++ (bracketed body ++ t))

namespace Escaped

variable {more : Nat} {s t : List Char}

/-- An escaped form starts like its text, or with a backslash. -/
theorem head
    (h : Escaped more s t) :
    t.head? = s.head? ∨ t.head? = some '\\' := by
  cases h with
  | done =>
      cases more with
      | zero =>
          exact .inl rfl
      | succ more =>
          exact .inr rfl
  | ordinary hc htag h =>
      exact .inl rfl
  | slashes n hs htag h =>
      exact .inl rfl
  | mark n hbody h =>
      exact .inr rfl

theorem dropWhile_backslashes (n : Nat) (s : List Char) :
    (backslashes n ++ s).dropWhile isInside = s.dropWhile isInside :=
  List.dropWhile_append_of_pos (by
    intro c hc
    obtain rfl := List.eq_of_mem_replicate hc
    rfl)

/-- The first bracket of an escaped form is of the same kind as that of its text. -/
theorem dropWhile_head
    (h : Escaped more s t) :
    (t.dropWhile isInside).head? = (s.dropWhile isInside).head? := by
  induction h with
  | done =>
      have hall := dropWhile_backslashes more []
      rw [List.append_nil] at hall
      rw [hall]
  | @ordinary c s t hc htag h ih =>
      rw [List.dropWhile_cons, List.dropWhile_cons]
      split
      · exact ih
      · rfl
  | slashes n hs htag h ih =>
      rw [dropWhile_backslashes, dropWhile_backslashes]
      exact ih
  | mark n hbody h ih =>
      rw [dropWhile_backslashes, dropWhile_backslashes]
      rfl

/-- A bracket that begins no mark in a text begins none in the escaped form. -/
theorem tag?_bracket_eq_none
    (h : Escaped more s t)
    (htag : tag? ('[' :: s) = none) :
    tag? ('[' :: t) = none := by
  rw [tag?_bracket_eq_none_iff] at htag ⊢
  intro c hc hopens
  rw [h.dropWhile_head]
  refine htag c ?_ hopens
  rcases h.head with hsame | hslash
  · exact hsame ▸ hc
  · obtain rfl := Option.some.inj (hslash.symm.trans hc)
    contradiction

/-- No character begins a mark in the escaped form that begins none in the text. -/
theorem tag?_cons_eq_none
    {c : Char}
    (h : Escaped more s t)
    (htag : tag? (c :: s) = none) :
    tag? (c :: t) = none := by
  by_cases hc : c = '['
  · subst hc
    exact h.tag?_bracket_eq_none htag
  · exact tag?_eq_none hc

/-- Where neither a backslash nor a mark begins a text, none begins its escaped form, unless nothing but
backslashes is left. -/
theorem begins
    (h : Escaped more s t)
    (hs : s.head? ≠ some '\\')
    (htag : tag? s = none) :
    (∃ m, t = backslashes m) ∨ t.head? ≠ some '\\' ∧ tag? t = none := by
  cases h with
  | done =>
      exact .inl ⟨more, rfl⟩
  | ordinary hc htag h =>
      exact .inr ⟨hs, h.tag?_cons_eq_none htag⟩
  | slashes n hs' htag' h =>
      exact absurd rfl hs
  | mark n hbody h =>
      cases n with
      | zero =>
          rw [show backslashes 0 = [] from rfl, List.nil_append, hbody] at htag
          contradiction
      | succ n =>
          exact absurd rfl hs

theorem inert_backslashes (m : Nat) :
    Inert (backslashes m) :=
  inert_of_not_holdsMark (not_holdsMark_of_not_mem (by
    intro hmem
    have hslash := List.eq_of_mem_replicate hmem
    contradiction))

/-- An escaped form opens and closes nothing. -/
theorem inert
    (h : Escaped more s t) :
    Inert t := by
  -- each case reads one step of the form; what is left of it is inert by induction
  induction h with
  | done =>
      exact inert_backslashes more
  | @ordinary c s t hc htag h ih =>
      intro fuel passed hfuel
      obtain ⟨fuel, rfl⟩ := Nat.exists_eq_succ_of_ne_zero (by
        rw [List.length_cons] at hfuel
        omega : fuel ≠ 0)
      have hstep := piecesFrom_step (n := 0) (s := c :: t) fuel passed (by simpa using hc) (by simp)
      rw [h.tag?_cons_eq_none htag] at hstep
      rw [show c :: t = backslashes 0 ++ c :: t from rfl, hstep]
      exact ih fuel _ (Nat.le_of_succ_le_succ hfuel)
  | slashes n hs htag h ih =>
      -- these backslashes may run into those at the end, and then nothing else is left
      rcases h.begins hs htag with ⟨m, rfl⟩ | ⟨ht, htag'⟩
      · rw [backslashes, backslashes, List.replicate_append_replicate]
        exact inert_backslashes _
      · intro fuel passed hfuel
        rw [List.length_append, backslashes, List.length_replicate] at hfuel
        obtain ⟨fuel, rfl⟩ := Nat.exists_eq_succ_of_ne_zero (by omega : fuel ≠ 0)
        have hstep := piecesFrom_step (n := n + 1) fuel passed ht (by
          simp [backslashes, List.replicate_succ])
        rw [htag'] at hstep
        rw [hstep]
        exact ih fuel _ (by omega)
  | @mark n body s t hbody h ih =>
      intro fuel passed hfuel
      simp only [List.length_append, backslashes, List.length_replicate] at hfuel
      obtain ⟨fuel, rfl⟩ := Nat.exists_eq_succ_of_ne_zero (by omega : fuel ≠ 0)
      have hstep := piecesFrom_step (n := 2 * n + 1) (s := bracketed body ++ t) fuel passed
        (by simp [bracketed]) (by simp [bracketed])
      rw [hbody] at hstep
      rw [hstep]
      refine isInert_of_mem_plainBefore (fun piece hpiece => ?_)
      rcases List.mem_cons.1 hpiece with rfl | hpiece
      · exact (by omega : (2 * n + 1) % 2 = 1)
      · exact ih fuel [] (by omega) piece hpiece

/-- Some backslashes more at the end are allowed. -/
theorem append_backslashes
    (h : Escaped more s t) (m : Nat) :
    Escaped (more + m) s (t ++ backslashes m) := by
  induction h with
  | done =>
      rw [backslashes, backslashes, List.replicate_append_replicate]
      exact .done
  | ordinary hc htag h ih =>
      exact .ordinary hc htag ih
  | slashes n hs htag h ih =>
      rw [List.append_assoc]
      exact .slashes n hs htag ih
  | mark n hbody h ih =>
      rw [List.append_assoc, List.append_assoc]
      exact .mark n hbody ih

theorem closeBackslash
    (h : Escaped more s t) :
    ∃ more, Escaped more s (closeBackslash t) := by
  unfold Markup.closeBackslash
  split
  · exact ⟨_, h⟩
  · exact ⟨_, h.append_backslashes 1⟩
  · exact ⟨_, h⟩

end Escaped

theorem flatMap_plainBefore
    (passed : List Char) (pieces : List Piece) :
    (plainBefore passed pieces).flatMap escapePiece
      = passed.reverse ++ pieces.flatMap escapePiece := by
  unfold plainBefore
  split
  · rename_i hpassed
    obtain rfl := List.isEmpty_iff.1 hpassed
    rfl
  · rfl

/-- The pieces of a text make up its escaped form. -/
theorem escaped_piecesFrom
    {fuel : Nat} {s : List Char}
    (hfuel : s.length ≤ fuel) (passed : List Char) :
    ∃ t, (piecesFrom fuel passed s).flatMap escapePiece = passed.reverse ++ t ∧ Escaped 0 s t := by
  -- on the fuel, as one step may read many characters; it bounds those that are left
  induction fuel generalizing s passed with
  | zero =>
      obtain rfl : s = [] := by
        simpa using hfuel
      refine ⟨[], ?_, .done⟩
      rw [piecesFrom, flatMap_plainBefore]
      rfl
  | succ fuel ih =>
      obtain ⟨n, beyond, rfl, hbeyond⟩ := exists_backslashes s
      rw [List.length_append, backslashes, List.length_replicate] at hfuel
      by_cases hempty : backslashes n ++ beyond = []
      · rw [hempty, piecesFrom, flatMap_plainBefore]
        exact ⟨[], rfl, .done⟩
      · rw [piecesFrom_step fuel passed hbeyond hempty]
        cases htag : tag? beyond with
        | some found =>
            obtain ⟨body, after⟩ := found
            obtain ⟨rfl, hbody⟩ := tag?_eq_some htag
            simp only [bracketed, List.length_append, List.length_cons] at hfuel
            obtain ⟨t, ht, hescaped⟩ := ih (s := after) (by omega) []
            refine ⟨_, ?_, .mark n hbody hescaped⟩
            rw [flatMap_plainBefore, List.flatMap_cons, ht, escapePiece]
            simp
        | none =>
            dsimp only
            cases n with
            | zero =>
                cases beyond with
                | nil =>
                    exact absurd rfl hempty
                | cons c rest =>
                    obtain ⟨t, ht, hescaped⟩ := ih (s := rest) (by simpa using hfuel) (c :: passed)
                    refine ⟨c :: t, ?_, .ordinary (by simpa using hbeyond) htag hescaped⟩
                    simpa using ht
            | succ n =>
                obtain ⟨t, ht, hescaped⟩ := ih (s := beyond) (by omega) (backslashes (n + 1) ++ passed)
                refine ⟨backslashes (n + 1) ++ t, ?_, .slashes n hbeyond htag hescaped⟩
                rw [if_neg (by omega), ht]
                simp [backslashes]

/-- What escaping makes of a text is its escaped form. -/
theorem escaped_escape (s : String) :
    ∃ more, Escaped more s.toList (escape s).toList := by
  obtain ⟨t, ht, hescaped⟩ := escaped_piecesFrom (Nat.le_refl s.toList.length) []
  rw [escape, String.toList_ofList, pieces, ht]
  exact hescaped.closeBackslash

theorem inert_escape (s : String) :
    Inert (escape s).toList := by
  obtain ⟨more, hescaped⟩ := escaped_escape s
  exact hescaped.inert

end Markup

/-! ## What is shown of them -/

namespace Screen

/-- A text that opens and closes nothing can be shown. -/
theorem textOf_inert
    {markup : String} (h : Markup.Inert markup.toList) :
    ∃ shown, textOf markup = .ok shown := by
  obtain ⟨s, hshown, -, hparts, hopened⟩ :=
    Markup.showFrom_inert (h _ [] (Nat.le_refl _)) .nothing 0
  have hread : Style.read? (Text.words []) = .ok (some ⟨[], none, none, none⟩) := rfl
  by_cases hbracket : markup.toList.contains '[' = true
  · have hrender : Markup.render markup = .ok s.finish := by
      rw [Markup.render, if_pos hbracket, Markup.pieces, hshown]
      rfl
    refine ⟨_, textOf_eq hread hrender (fun part hpart => ?_)⟩
    simp [Markup.Shown.finish, hparts, hopened, Markup.Shown.nothing] at hpart
  · have hrender : Markup.render markup = .ok (.plain (Markup.taken markup.toList)) := by
      rw [Markup.render, if_neg hbracket]
    exact ⟨_, textOf_eq hread hrender (fun part hpart => by simp [StyledText.plain] at hpart)⟩

theorem textOf_escape (s : String) :
    ∃ shown, textOf (Markup.escape s) = .ok shown :=
  textOf_inert (Markup.inert_escape s)

/-- The style of what is wrong. -/
theorem red_styleName :
    Markup.StyleName "red".toList :=
  ⟨rfl, rfl, by decide, by decide, rfl, rfl, rfl⟩

theorem read?_red :
    Style.read? (Text.words "red".toList) = .ok (some ⟨[], some "red".toList, none, none⟩) := by
  rfl

def diagnosticMarkup (d : Diagnostic) : String :=
  "[red]Error[/red] (" ++ Markup.escape d.step ++ "): " ++ Markup.escape d.text

/-- It has one part between two marks: the word in front of its step. -/
theorem error_between (step text : String) :
    "[red]Error[/red] (" ++ step ++ "): " ++ text
      = String.ofList (Markup.between "red".toList [] "Error".toList
          ((" (" ++ step ++ "): ").toList ++ text.toList)) := by
  rw [← String.toList_inj]
  simp [Markup.between]

theorem ordinary_step
    {step : String} (hstep : ∀ c ∈ step.toList, c ≠ '[' ∧ c ≠ '\\') :
    ∀ c ∈ (" (" ++ step ++ "): ").toList, c ≠ '[' ∧ c ≠ '\\' := by
  intro c hc
  rw [String.toList_append, String.toList_append, List.mem_append, List.mem_append] at hc
  rcases hc with (hc | hc) | hc
  · exact Markup.ordinary_of_all (by decide) c hc
  · exact hstep c hc
  · exact Markup.ordinary_of_all (by decide) c hc

/-- A diagnostic is the word for it in its style, and behind it what its escaped step and text show. -/
theorem render_diagnostic
    {d : Diagnostic}
    (hstep : ∀ c ∈ (Markup.escape d.step).toList, c ≠ '[' ∧ c ≠ '\\') :
    ∃ t, Markup.render (diagnosticMarkup d) = .ok t
      ∧ t.StyledAs "red".toList
      ∧ ∀ shown, Markup.Shows ((" (" ++ Markup.escape d.step ++ "): ").toList
            ++ (Markup.escape d.text).toList) shown →
          t.chars = Markup.taken "Error".toList ++ shown := by
  have hafter := (Markup.inert_escape d.text).append_ordinary (ordinary_step hstep)
  rw [show diagnosticMarkup d = _ from error_between _ _]
  exact Markup.render_between [] "Error".toList red_styleName (by simp) (by simp) hafter

/-- A diagnostic can be shown whatever its text is, unless there are brackets or backslashes in its step:
both are escaped, but each for itself. -/
theorem textOf_diagnostic
    {d : Diagnostic}
    (hstep : ∀ c ∈ (Markup.escape d.step).toList, c ≠ '[' ∧ c ≠ '\\') :
    ∃ shown, textOf (diagnosticMarkup d) = .ok shown := by
  obtain ⟨t, hrender, hstyled, -⟩ := render_diagnostic hstep
  exact ⟨_, textOf_eq read?_red hrender hstyled⟩

end Screen

/-! ## Markup that does not fit -/

/-- An outcome that is no diagnostic. -/
def Undiagnosed {α : Type} (o : Except Failure α) : Prop :=
  ∀ d, o ≠ .error (.diagnostic d)

namespace Undiagnosed

variable {α β : Type}

theorem ok (x : α) :
    Undiagnosed (.ok x) := by
  intro d
  simp

theorem bind
    {o : Except Failure α} {f : α → Except Failure β}
    (ho : Undiagnosed o) (hf : ∀ x, Undiagnosed (f x)) :
    Undiagnosed (o >>= f) := by
  cases o with
  | error e =>
      intro d hd
      exact ho d (congrArg Except.error (Except.error.inj hd))
  | ok x =>
      exact hf x

theorem map
    {o : Except Failure α}
    (ho : Undiagnosed o) (f : α → β) :
    Undiagnosed (f <$> o) := by
  cases o with
  | error e =>
      intro d hd
      exact ho d (congrArg Except.error (Except.error.inj hd))
  | ok x =>
      exact .ok (f x)

theorem mapError
    {ε : Type} {o : Except ε α} {f : ε → Failure}
    (hf : ∀ e d, f e ≠ .diagnostic d) :
    Undiagnosed (o.mapError f) := by
  cases o with
  | error e =>
      intro d hd
      exact hf e d (Except.error.inj hd)
  | ok x =>
      exact .ok x

theorem mapM
    {f : α → Except Failure β}
    (hf : ∀ x, Undiagnosed (f x)) (items : List α) :
    Undiagnosed (items.mapM f) := by
  induction items with
  | nil =>
      exact .ok []
  | cons x items ih =>
      rw [List.mapM_cons]
      exact (hf x).bind (fun y => ih.bind (fun ys => .ok (y :: ys)))

theorem forM
    {f : α → Except Failure Unit}
    (hf : ∀ x, Undiagnosed (f x)) (items : List α) :
    Undiagnosed (items.forM f) := by
  induction items with
  | nil =>
      exact .ok ()
  | cons x items ih =>
      exact (hf x).bind (fun _ => ih)

end Undiagnosed

namespace Color

theorem isMixture_undiagnosed (word : List Char) :
    Undiagnosed (isMixture word) := by
  unfold isMixture
  split
  · dsimp only
    split
    · exact (Undiagnosed.mapM (fun digits => .mapError (by simp)) _).bind (fun _ => .ok _)
    · exact .ok _
  · exact .ok _

theorem name?_undiagnosed (word : List Char) :
    Undiagnosed (name? word) := by
  exact (isMixture_undiagnosed _).bind (fun _ => .ok _)

end Color

namespace Style

/-- The words behind a colour are read only where it is one. -/
theorem colored_undiagnosed
    {f : List Char → Except Failure (Option Style)}
    (hf : ∀ name, Undiagnosed (f name)) (word : List Char) :
    Undiagnosed (Color.name? word >>= fun found =>
      match found with
      | some name => f name
      | none => pure none) := by
  refine (Color.name?_undiagnosed word).bind (fun found => ?_)
  cases found with
  | none =>
      exact .ok none
  | some name =>
      exact hf name

theorem readFrom?_undiagnosed (s : Style) (words : List (List Char)) :
    Undiagnosed (s.readFrom? words) := by
  fun_induction readFrom? s words with
  | case1 =>
      exact .ok _
  | case2 s word key hkey color rest ih =>
      exact colored_undiagnosed ih color
  | case4 s word key hon hnot switched rest a ha ih =>
      exact ih
  | case7 s word key hon hnot hlink address rest ih =>
      exact ih
  | case9 s word rest key hon hnot hlink a ha ih =>
      exact ih
  | case10 s word rest key hon hnot hlink ha ih =>
      exact colored_undiagnosed ih _
  | case3 | case5 | case6 | case8 =>
      exact .ok none

theorem read?_undiagnosed (words : List (List Char)) :
    Undiagnosed (read? words) := by
  unfold read?
  split
  · exact .ok _
  · exact readFrom?_undiagnosed _ _

theorem nameOf_undiagnosed (s : List Char) :
    Undiagnosed (nameOf s) := by
  refine (read?_undiagnosed _).bind (fun style => ?_)
  cases style with
  | none =>
      exact .ok _
  | some style =>
      exact .ok _

end Style

namespace Markup

theorem Opened.check_undiagnosed (o : Opened) :
    Undiagnosed o.check := by
  unfold Opened.check
  split
  · split
    · exact .mapError (by simp)
    · exact .ok ()
  · exact .ok ()

theorem Shown.apply_undiagnosed (position : Nat) (body : List Char) (s : Shown) :
    Undiagnosed (s.apply position body) := by
  unfold Shown.apply
  split
  · split
    · split
      · intro d
        simp
      · exact (Opened.check_undiagnosed _).bind (fun _ => .ok _)
    · refine (Style.nameOf_undiagnosed _).bind (fun name => ?_)
      split
      · exact (Opened.check_undiagnosed _).bind (fun _ => .ok _)
      · intro d hd
        exact Failure.noConfusion (Except.error.inj hd)
  · exact (Style.nameOf_undiagnosed _).bind (fun _ => .ok _)

theorem showFrom_undiagnosed (s : Shown) (position : Nat) (pieces : List Piece) :
    Undiagnosed (showFrom s position pieces) := by
  induction pieces generalizing s position with
  | nil =>
      exact .ok s
  | cons piece pieces ih =>
      cases piece with
      | plain chars =>
          exact ih _ _
      | mark n body =>
          rw [showFrom]
          split
          · exact ih _ _
          · exact (Shown.apply_undiagnosed _ _ _).bind (fun _ => ih _ _)

theorem render_undiagnosed (s : String) :
    Undiagnosed (render s) := by
  unfold render
  split
  · exact (showFrom_undiagnosed _ _ _).map _
  · exact .ok _

end Markup

namespace Screen

theorem checkStyles_undiagnosed (t : StyledText) :
    Undiagnosed (checkStyles t) :=
  .forM (fun _ => (Style.read?_undiagnosed _).bind (fun _ => .ok ())) _

/-- Why a text cannot be shown is no diagnostic. -/
theorem textOf_undiagnosed (markup : String) :
    Undiagnosed (textOf markup) :=
  (Markup.render_undiagnosed markup).bind (fun _ =>
    (Undiagnosed.forM checkStyles_undiagnosed _).bind (fun _ => .ok _))

theorem cell_undiagnosed (limit : Nat) (t : StyledText) :
    Undiagnosed (cell limit t) :=
  (Undiagnosed.forM checkStyles_undiagnosed _).bind (fun _ => .ok _)

theorem row_undiagnosed (left right : Nat) (cells : StyledText × StyledText) :
    Undiagnosed (row left right cells) :=
  (cell_undiagnosed left cells.1).bind (fun _ =>
    (cell_undiagnosed right cells.2).bind (fun _ => .ok _))

/-- Why a table cannot be shown is no diagnostic. -/
theorem tableText_undiagnosed (rows : List (String × String)) :
    Undiagnosed (tableText rows) :=
  (Undiagnosed.mapM (fun _ => (Markup.render_undiagnosed _).bind (fun _ =>
    (Markup.render_undiagnosed _).bind (fun _ => .ok _))) _).bind (fun _ =>
      (Undiagnosed.mapM (row_undiagnosed _ _) _).bind (fun _ => .ok _))

end Screen

end Killswitch
