/-!
# Blanks and words

The white space that separates words in configuration lines, routing tables and reports: the
twenty-nine characters that Unicode calls white space or that separate information in ASCII.

**Contents.**
* `isBlank`: the class itself;
* `pieces`: a text cut at every separator, empty pieces kept;
* `words`: the maximal runs without a blank;
* `trim`: a text without the blanks at its ends.
-/

namespace Killswitch
namespace Text

def isBlank (c : Char) : Bool :=
  let n := c.toNat
  (0x09 ≤ n && n ≤ 0x0d) || (0x1c ≤ n && n ≤ 0x20) || n == 0x85 || n == 0xa0 || n == 0x1680
    || (0x2000 ≤ n && n ≤ 0x200a) || n == 0x2028 || n == 0x2029 || n == 0x202f || n == 0x205f
    || n == 0x3000

/-- A text cut at every separator, with empty pieces between neighbours. -/
def pieces {α : Type} (separates : α → Bool) : List α → List (List α)
  | [] => [[]]
  | c :: rest =>
      if separates c then [] :: pieces separates rest
      else
        match pieces separates rest with
        | [] => [[c]]
        | piece :: more => (c :: piece) :: more

@[simp] theorem pieces_nil {α : Type} (separates : α → Bool) :
    pieces separates [] = [[]] := by
  rfl

theorem pieces_ne_nil {α : Type} (separates : α → Bool) (s : List α) :
    pieces separates s ≠ [] := by
  cases s with
  | nil => simp
  | cons c rest =>
      unfold pieces
      split
      · simp
      · split <;> simp

/-- The maximal runs of characters that are not blank. -/
def words (s : List Char) : List (List Char) :=
  (pieces isBlank s).filter (fun piece => !piece.isEmpty)

/-- No word is empty. -/
theorem ne_nil_of_mem_words
    {s w : List Char} (h : w ∈ words s) :
    w ≠ [] := by
  have hw := (List.mem_filter.1 h).2
  simpa using hw

theorem not_separates_of_mem_pieces
    {α : Type} {separates : α → Bool} {s piece : List α} (h : piece ∈ pieces separates s) :
    ∀ c ∈ piece, separates c = false := by
  induction s generalizing piece with
  | nil =>
      simp [pieces] at h
      simp [h]
  | cons d s ih =>
      unfold pieces at h
      split at h
      · rcases List.mem_cons.1 h with rfl | h
        · simp
        · exact ih h
      · rename_i hd
        cases hp : pieces separates s with
        | nil =>
            exact absurd hp (pieces_ne_nil separates s)
        | cons first more =>
            rw [hp] at h ih
            rcases List.mem_cons.1 h with rfl | h
            · intro c hc
              rcases List.mem_cons.1 hc with rfl | hc
              · simpa using hd
              · exact ih (List.mem_cons_self) c hc
            · exact ih (List.mem_cons_of_mem _ h)

/-- No word holds a blank. -/
theorem not_blank_of_mem_words
    {s w : List Char} (h : w ∈ words s) :
    ∀ c ∈ w, isBlank c = false := by
  exact not_separates_of_mem_pieces (List.mem_filter.1 h).1

/-- A text without the blanks at its end. -/
def trimEnd (s : List Char) : List Char :=
  (s.reverse.dropWhile isBlank).reverse

/-- A text without the blanks at its start and its end. -/
def trim (s : List Char) : List Char :=
  trimEnd (s.dropWhile isBlank)

end Text
end Killswitch
