import Killswitch.Text.Blank
import Killswitch.Text.Digit

/-!
# Runs of characters

A reader takes the longest run of characters of a class from the start of a text. The run and the rest are
told by what they hold: the run belongs to the class, and the rest does not start with a character of it.

**Results.**
* `Opens`, `opens_iff`: a text that starts with a run, and how the run is taken;
* `isDigit_of_blank`: no blank is a digit.
-/

namespace Killswitch
namespace Text

variable {α : Type} {inClass : α → Bool}

/-- A text starts with a run of members of a class, and the rest does not start with one. -/
structure Opens (inClass : α → Bool) (s run rest : List α) : Prop where
  text : s = run ++ rest
  all : ∀ c ∈ run, inClass c = true
  ends : ∀ c ∈ rest.head?, inClass c = false

namespace Opens

variable {s run rest : List α}

theorem of_taken (inClass : α → Bool) (s : List α) :
    Opens inClass s (s.takeWhile inClass) (s.dropWhile inClass) := by
  refine ⟨List.takeWhile_append_dropWhile.symm, List.all_eq_true.1 List.all_takeWhile, ?_⟩
  intro c hc
  have hstops := List.head?_dropWhile_not inClass s
  rw [hc] at hstops
  exact hstops

theorem rest_taken
    (h : ∀ c ∈ rest.head?, inClass c = false) :
    rest.takeWhile inClass = [] ∧ rest.dropWhile inClass = rest := by
  cases rest with
  | nil =>
      exact ⟨rfl, rfl⟩
  | cons c rest =>
      have hc : inClass c = false := h c rfl
      simp [hc]

theorem takeWhile_eq
    (h : Opens inClass s run rest) :
    s.takeWhile inClass = run := by
  rw [h.text, List.takeWhile_append_of_pos h.all, (rest_taken h.ends).1, List.append_nil]

theorem dropWhile_eq
    (h : Opens inClass s run rest) :
    s.dropWhile inClass = rest := by
  rw [h.text, List.dropWhile_append_of_pos h.all, (rest_taken h.ends).2]

end Opens

/-- The longest run that can be taken is the run that the text starts with. -/
theorem opens_iff
    {s run rest : List α} :
    Opens inClass s run rest ↔ s.takeWhile inClass = run ∧ s.dropWhile inClass = rest := by
  constructor
  · intro h
    exact ⟨h.takeWhile_eq, h.dropWhile_eq⟩
  · rintro ⟨rfl, rfl⟩
    exact .of_taken inClass s

/-! ## Blanks and digits -/

def blanks : List Nat :=
  [0x09, 0x0a, 0x0b, 0x0c, 0x0d, 0x1c, 0x1d, 0x1e, 0x1f, 0x20, 0x85, 0xa0, 0x1680, 0x2000, 0x2001,
    0x2002, 0x2003, 0x2004, 0x2005, 0x2006, 0x2007, 0x2008, 0x2009, 0x200a, 0x2028, 0x2029, 0x202f,
    0x205f, 0x3000]

theorem mem_blanks_of_isBlank
    {c : Char} (h : isBlank c = true) :
    c.toNat ∈ blanks := by
  simp only [isBlank, Bool.or_eq_true, Bool.and_eq_true, decide_eq_true_eq, beq_iff_eq] at h
  simp only [blanks, List.mem_cons, List.not_mem_nil, or_false]
  omega

/-- No blank is a digit. -/
theorem isDigit_of_blank
    {c : Char} (h : isBlank c = true) :
    isDigit c = false := by
  have hnone : ∀ n ∈ blanks, zeros.find? (fun z => z ≤ n && n ≤ z + 9) = none := by
    decide
  rw [isDigit, digitValue?, hnone _ (mem_blanks_of_isBlank h)]
  rfl

end Text
end Killswitch
