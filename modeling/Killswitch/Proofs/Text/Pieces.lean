import Killswitch.Text.Blank
import Killswitch.Text.Search

/-!
# Cutting and joining texts

Texts that are joined with a separator come apart again at it, if none of them holds a separator itself.

**Results.**
* `pieces_of_forall_not`, `pieces_append_separator`, `pieces_append_cons`: the pieces of a text without
  separators, and of one with a separator;
* `mem_pieces`, `mem_of_mem_pieces`: what they hold;
* `pieces_joinWith`, `pieces_ended`: texts that are joined with a separator, or each ended by one;
* `intercalate_pieces`: the pieces of a text, with the separator put back between them;
* `joinWith_append`, `mem_joinWith`: two lists of texts that are joined one after the other, and what joined
  texts hold;
* `eq_of_cutAt`, `eq_of_cutAt_none`, `cutAt_fst_prefix`, `cutAt_append`, `cutAt_of_not_mem`: a text that is cut
  at its first mark, and a text that has none.
-/

namespace Killswitch
namespace Text

section Pieces

variable {α : Type} {separates : α → Bool}

/-- A text without separators is a single piece. -/
theorem pieces_of_forall_not
    {s : List α} (h : ∀ c ∈ s, separates c = false) :
    pieces separates s = [s] := by
  induction s with
  | nil =>
      rfl
  | cons c s ih =>
      have hc : separates c = false := h c List.mem_cons_self
      have hs := ih (fun d hd => h d (List.mem_cons_of_mem c hd))
      simp [pieces, hc, hs]

/-- A separator anywhere in a text divides its pieces. -/
theorem pieces_append_separator
    (s t : List α) {d : α} (hd : separates d = true) :
    pieces separates (s ++ d :: t) = pieces separates s ++ pieces separates t := by
  induction s with
  | nil =>
      simp [pieces, hd]
  | cons c s ih =>
      by_cases hc : separates c = true
      · simp [pieces, hc, ih]
      · obtain ⟨first, more, hpieces⟩ := List.exists_cons_of_ne_nil (pieces_ne_nil separates s)
        simp [pieces, hc, ih, hpieces]

/-- A separator ends the piece before it. -/
theorem pieces_append_cons
    {s : List α} (h : ∀ c ∈ s, separates c = false)
    {d : α} (hd : separates d = true) (t : List α) :
    pieces separates (s ++ d :: t) = s :: pieces separates t := by
  rw [pieces_append_separator s t hd, pieces_of_forall_not h]
  rfl

/-- Whatever does not separate is in one of the pieces. -/
theorem mem_pieces
    (separates : α → Bool) {s : List α} {c : α}
    (hmem : c ∈ s) (hc : separates c = false) :
    ∃ piece ∈ pieces separates s, c ∈ piece := by
  induction s with
  | nil =>
      contradiction
  | cons d s ih =>
      obtain ⟨first, more, hpieces⟩ := List.exists_cons_of_ne_nil (pieces_ne_nil separates s)
      by_cases hd : separates d = true
      · have hne : c ≠ d := by
          rintro rfl
          simp [hd] at hc
        obtain ⟨piece, hpiece, hin⟩ := ih ((List.mem_cons.1 hmem).resolve_left hne)
        exact ⟨piece, by simp [pieces, hd, hpiece], hin⟩
      · have hcut : pieces separates (d :: s) = (d :: first) :: more := by
          simp [pieces, hd, hpieces]
        rw [hcut]
        rcases List.mem_cons.1 hmem with rfl | hmem
        · exact ⟨c :: first, List.mem_cons_self, List.mem_cons_self⟩
        · obtain ⟨piece, hpiece, hin⟩ := ih hmem
          rw [hpieces] at hpiece
          rcases List.mem_cons.1 hpiece with rfl | hpiece
          · exact ⟨d :: piece, List.mem_cons_self, List.mem_cons_of_mem d hin⟩
          · exact ⟨piece, List.mem_cons_of_mem _ hpiece, hin⟩

theorem mem_of_mem_pieces
    {s piece : List α} {c : α}
    (hpiece : piece ∈ pieces separates s) (hc : c ∈ piece) :
    c ∈ s := by
  induction s generalizing piece with
  | nil =>
      obtain rfl : piece = [] := by
        simpa [pieces] using hpiece
      contradiction
  | cons d s ih =>
      obtain ⟨first, more, hpieces⟩ := List.exists_cons_of_ne_nil (pieces_ne_nil separates s)
      rw [hpieces] at ih
      unfold pieces at hpiece
      rw [hpieces] at hpiece
      split at hpiece
      · rcases List.mem_cons.1 hpiece with rfl | hpiece
        · contradiction
        · exact List.mem_cons_of_mem d (ih hpiece hc)
      · rcases List.mem_cons.1 hpiece with rfl | hpiece
        · rcases List.mem_cons.1 hc with rfl | hc
          · exact List.mem_cons_self
          · exact List.mem_cons_of_mem d (ih List.mem_cons_self hc)
        · exact List.mem_cons_of_mem d (ih (List.mem_cons_of_mem first hpiece) hc)

/-- The pieces of a text are its parts between separators. -/
theorem pieces_eq_splitOnP
    (separates : α → Bool) (s : List α) :
    pieces separates s = s.splitOnP separates := by
  induction s with
  | nil =>
      rfl
  | cons c s ih =>
      rw [pieces, ih, List.splitOnP_cons_eq_if_modifyHead]
      cases hs : s.splitOnP separates with
      | nil =>
          exact absurd (ih.trans hs) (pieces_ne_nil separates s)
      | cons first more =>
          rfl

/-- With the separator put back between the pieces of a text, they are the text. -/
theorem intercalate_pieces
    [BEq α] [LawfulBEq α] (d : α) (s : List α) :
    [d].intercalate (pieces (· == d) s) = s := by
  rw [pieces_eq_splitOnP]
  exact List.intercalate_splitOn d

end Pieces

/-! ## Joined texts -/

theorem joinWith_cons
    {texts : List String} (separator text : String)
    (h : texts ≠ []) :
    joinWith separator (text :: texts) = text ++ separator ++ joinWith separator texts := by
  cases texts with
  | nil =>
      contradiction
  | cons next texts =>
      rfl

theorem joinWith_append
    {texts more : List String} (separator : String)
    (h : texts ≠ []) (hmore : more ≠ []) :
    joinWith separator (texts ++ more)
      = joinWith separator texts ++ separator ++ joinWith separator more := by
  induction texts with
  | nil =>
      contradiction
  | cons text texts ih =>
      by_cases hrest : texts = []
      · subst hrest
        rw [List.singleton_append, joinWith_cons separator text hmore]
        rfl
      · have hne : texts ++ more ≠ [] := by
          simp [hrest]
        rw [List.cons_append, joinWith_cons separator text hne, ih hrest,
          joinWith_cons separator text hrest]
        simp only [String.append_assoc]

/-- A character of joined texts is in one of them or in a separator. -/
theorem mem_joinWith
    {separator : String} {texts : List String} {c : Char}
    (h : c ∈ (joinWith separator texts).toList) :
    c ∈ separator.toList ∨ ∃ text ∈ texts, c ∈ text.toList := by
  induction texts with
  | nil =>
      simp [joinWith] at h
  | cons text texts ih =>
      by_cases hrest : texts = []
      · subst hrest
        exact .inr ⟨text, List.mem_cons_self, h⟩
      · rw [joinWith_cons separator text hrest, String.toList_append, String.toList_append,
          List.mem_append, List.mem_append] at h
        rcases h with (htext | hseparator) | hmore
        · exact .inr ⟨text, List.mem_cons_self, htext⟩
        · exact .inl hseparator
        · rcases ih hmore with hseparator | ⟨other, hother, hc⟩
          · exact .inl hseparator
          · exact .inr ⟨other, List.mem_cons_of_mem _ hother, hc⟩

variable {separates : Char → Bool} {mark : Char}

/-- Texts that are joined with a separator are the pieces of the whole. -/
theorem pieces_joinWith
    {separator : String} {texts : List String}
    (hseparator : separator.toList = [mark])
    (hmark : separates mark = true)
    (hne : texts ≠ [])
    (htexts : ∀ text ∈ texts, ∀ c ∈ text.toList, separates c = false) :
    pieces separates (joinWith separator texts).toList = texts.map String.toList := by
  induction texts with
  | nil =>
      contradiction
  | cons text texts ih =>
      have htext := htexts text List.mem_cons_self
      by_cases hrest : texts = []
      · subst hrest
        exact pieces_of_forall_not htext
      · have hmore := ih hrest (fun t ht => htexts t (List.mem_cons_of_mem _ ht))
        rw [joinWith_cons separator text hrest, String.toList_append, String.toList_append, hseparator,
          List.append_assoc, List.singleton_append, pieces_append_cons htext hmark, hmore, List.map_cons]

/-- Texts that are each ended by a separator are the pieces of the whole, with an empty one at the end. -/
theorem pieces_ended
    {separator : String} {texts : List String}
    (hseparator : separator.toList = [mark])
    (hmark : separates mark = true)
    (htexts : ∀ text ∈ texts, ∀ c ∈ text.toList, separates c = false) :
    pieces separates (String.join (texts.map (· ++ separator))).toList
      = texts.map String.toList ++ [[]] := by
  induction texts with
  | nil =>
      rfl
  | cons text texts ih =>
      have htext := htexts text List.mem_cons_self
      have hmore := ih (fun t ht => htexts t (List.mem_cons_of_mem _ ht))
      rw [List.map_cons, String.join_cons, String.toList_append, String.toList_append, hseparator,
        List.append_assoc, List.singleton_append, pieces_append_cons htext hmark, hmore]
      rfl

/-! ## Cut texts -/

theorem eq_of_cutAt_none
    {s before : List Char}
    (h : cutAt mark s = (before, none)) :
    before = s := by
  induction s generalizing before with
  | nil =>
      exact (congrArg Prod.fst h).symm
  | cons c s ih =>
      unfold cutAt at h
      split at h
      · simp at h
      · obtain ⟨rfl, hnone⟩ := Prod.mk.inj h
        exact congrArg (c :: ·) (ih (Prod.ext rfl hnone))

theorem eq_of_cutAt
    {s before after : List Char}
    (h : cutAt mark s = (before, some after)) :
    s = before ++ mark :: after := by
  induction s generalizing before with
  | nil =>
      simp [cutAt] at h
  | cons c s ih =>
      unfold cutAt at h
      split at h
      · rename_i hc
        obtain ⟨rfl, hafter⟩ := Prod.mk.inj h
        rw [hc, Option.some.inj hafter, List.nil_append]
      · obtain ⟨rfl, hsome⟩ := Prod.mk.inj h
        exact congrArg (c :: ·) (ih (Prod.ext rfl hsome))

/-- What stands in front of the first mark is a front of the text. -/
theorem cutAt_fst_prefix
    (mark : Char) (s : List Char) :
    (cutAt mark s).1 <+: s := by
  rcases hcut : cutAt mark s with ⟨before, after⟩
  cases after with
  | none => exact eq_of_cutAt_none hcut ▸ List.prefix_rfl
  | some after =>
      exact ⟨mark :: after, (eq_of_cutAt hcut).symm⟩

/-- A text without the mark is not cut. -/
theorem cutAt_of_not_mem
    {s : List Char} (h : mark ∉ s) :
    cutAt mark s = (s, none) := by
  induction s with
  | nil =>
      rfl
  | cons c s ih =>
      obtain ⟨hc, hs⟩ := List.ne_and_not_mem_of_not_mem_cons h
      rw [cutAt, if_neg (Ne.symm hc), ih hs]

/-- A text is cut at its first mark. -/
theorem cutAt_append
    {before : List Char} (h : mark ∉ before) (after : List Char) :
    cutAt mark (before ++ mark :: after) = (before, some after) := by
  induction before with
  | nil =>
      rw [List.nil_append, cutAt, if_pos rfl]
  | cons c before ih =>
      obtain ⟨hc, hbefore⟩ := List.ne_and_not_mem_of_not_mem_cons h
      rw [List.cons_append, cutAt, if_neg (Ne.symm hc), ih hbefore]

end Text
end Killswitch
