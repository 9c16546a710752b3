import Killswitch.Host.Basic
import Killswitch.Proofs.Text.Pieces

/-!
# Paths that are spelled and read again

A path is written out and read again without a change, as long as its components are names. What is read from a text has
such components, and so has what is made of such paths: the directory of one, one below another, and one with
its tilde replaced.

**Tildes.** Only the first component of a path without root is looked at for a tilde. So a path that is below a
directory is taken for one in a home directory if the path of the directory starts with a tilde, or if the
directory is the current one and the path itself does.

**Results.**
* `ofString_toString`: a path with proper names is read as it was written;
* `expandHome?_of_not_startsAtHome`, `startsAtHome_join_iff`: the paths that the home directory does not matter to;
* `Host.place_join`, `Host.place_parent`: where a path below the directory of another one leads.
-/

namespace Killswitch
namespace Path

/-! ## Names -/

/-- What can stand between slashes. -/
structure IsName (part : String) : Prop where
  ne_empty : part ≠ ""
  ne_dot : part ≠ "."
  no_slash : '/' ∉ part.toList

/-- All components of a path are names. -/
def HasNames (p : Path) : Prop :=
  ∀ part ∈ p.parts, IsName part

theorem hasNames_ofString
    (s : String) :
    (ofString s).HasNames := by
  intro part hpart
  obtain ⟨hpiece, hkept⟩ := List.mem_filter.1 hpart
  obtain ⟨piece, hcut, rfl⟩ := List.mem_map.1 hpiece
  have hslash := Text.not_separates_of_mem_pieces hcut '/'
  simp only [Bool.and_eq_true, bne_iff_ne] at hkept
  exact ⟨hkept.1, hkept.2, by simpa using hslash⟩

theorem join_of_rooted
    {p q : Path} (h : q.root ≠ .here) :
    p.join q = q := by
  rw [join, if_neg h]

section Made

variable {p q : Path} (hp : p.HasNames) (hq : q.HasNames)

include hp in
theorem HasNames.parent :
    p.parent.HasNames :=
  fun part hpart => hp part (List.dropLast_subset _ hpart)

include hp hq in
theorem HasNames.join :
    (p.join q).HasNames := by
  unfold Path.join
  split
  · exact fun part hpart => (List.mem_append.1 hpart).elim (hp part) (hq part)
  · exact hq

end Made

/-! ## Writing and reading -/

section Spelling

variable {p : Path}

theorem IsName.toList_eq
    {part : String} (h : IsName part) :
    ∃ c rest, part.toList = c :: rest ∧ c ≠ '/' := by
  match hpart : part.toList with
  | [] => exact absurd (String.toList_eq_nil_iff.1 hpart) h.ne_empty
  | c :: rest =>
      refine ⟨c, rest, rfl, ?_⟩
      rintro rfl
      exact h.no_slash (by rw [hpart]; exact List.mem_cons_self)

/-- Names with slashes between them do not start with a slash. -/
theorem joinWith_toList_eq
    {parts : List String} (hparts : ∀ part ∈ parts, IsName part) (hne : parts ≠ []) :
    ∃ c rest, (Text.joinWith "/" parts).toList = c :: rest ∧ c ≠ '/' := by
  match parts with
  | [part] => exact (hparts part List.mem_cons_self).toList_eq
  | part :: next :: parts =>
      obtain ⟨c, rest, hpart, hc⟩ := (hparts part List.mem_cons_self).toList_eq
      refine ⟨c, rest ++ '/' :: (Text.joinWith "/" (next :: parts)).toList, ?_, hc⟩
      simp [Text.joinWith, hpart]

theorem rootOf_append
    (root : Root) {c : Char} (rest : List Char) (hc : c ≠ '/') :
    rootOf (root.toString.toList ++ c :: rest) = root := by
  cases root <;> simp [rootOf, Root.toString, hc]

/-- The parts of a spelling are the names; the pieces of the root are empty. -/
theorem filter_pieces
    (root : Root) {parts : List String} (hparts : ∀ part ∈ parts, IsName part) (hne : parts ≠ []) :
    ((Text.pieces (· == '/') (root.toString.toList ++ (Text.joinWith "/" parts).toList)).map String.ofList).filter
      (fun part => part != "" && part != ".") = parts := by
  have hjoined : Text.pieces (· == '/') (Text.joinWith "/" parts).toList = parts.map String.toList := by
    refine Text.pieces_joinWith rfl rfl hne (fun part hpart c hc => ?_)
    rw [beq_eq_false_iff_ne]
    rintro rfl
    exact (hparts part hpart).no_slash hc
  have hkept : parts.filter (fun part => part != "" && part != ".") = parts := by
    refine List.filter_eq_self.2 (fun part hpart => ?_)
    simp [(hparts part hpart).ne_empty, (hparts part hpart).ne_dot]
  cases root <;> simpa [Root.toString, Text.pieces, hjoined, Function.comp_def] using hkept

/-- A path with proper names is read as it was written. -/
theorem ofString_toString
    (hp : p.HasNames) :
    ofString p.toString = p := by
  obtain ⟨root, parts⟩ := p
  by_cases hne : parts = []
  · subst hne
    cases root <;> decide
  · obtain ⟨c, rest, hjoined, hc⟩ := joinWith_toList_eq hp hne
    have hroot := rootOf_append root rest hc
    rw [← hjoined] at hroot
    unfold ofString toString
    rw [if_neg (fun h => hne h.2), String.toList_append, filter_pieces root hp hne, hroot]

end Spelling

/-! ## Tildes -/

section Tildes

variable {homeOf : String → Option String} {p q : Path}

/-- A path without root whose first component starts with a tilde. -/
def StartsAtHome (p : Path) : Prop :=
  p.root = .here ∧ p.parts.head?.bind (fun first => first.toList.head?) = some '~'

instance : DecidablePred StartsAtHome :=
  fun p => inferInstanceAs (Decidable (p.root = .here ∧ _ = some '~'))

/-- Nothing is replaced in a path that does not start with a tilde. -/
theorem expandHome?_of_not_startsAtHome
    (h : ¬ p.StartsAtHome) :
    p.expandHome? homeOf = some p := by
  unfold expandHome?
  split
  · rename_i first rest hroot hparts
    split
    · rename_i user hfirst
      exact absurd ⟨hroot, by simp [hparts, hfirst]⟩ h
    · rfl
  · rfl

theorem HasNames.expandHome?
    (hp : p.HasNames) (h : p.expandHome? homeOf = some q) :
    q.HasNames := by
  unfold Path.expandHome? at h
  split at h
  · rename_i first rest hroot hparts
    split at h
    · split at h
      · rename_i user hfirst _ directory hhome
        dsimp only at h
        split at h
        · contradiction
        · obtain rfl := Option.some.inj h
          refine fun part hpart => (List.mem_append.1 hpart).elim (hasNames_ofString directory part) (fun hrest => ?_)
          exact hp part (by rw [hparts]; exact List.mem_cons_of_mem first hrest)
      · contradiction
    · exact Option.some.inj h ▸ hp
  · exact Option.some.inj h ▸ hp

/-- A path below another one starts with a tilde if the other one does, or if that is the current directory and the path
itself does. -/
theorem startsAtHome_join_iff
    (hq : q.root = .here) :
    (p.join q).StartsAtHome ↔ p.StartsAtHome ∨ (p = ⟨.here, []⟩ ∧ q.StartsAtHome) := by
  obtain ⟨root, parts⟩ := p
  rw [join, if_pos hq]
  cases parts with
  | nil =>
      simp [StartsAtHome, hq]
  | cons first parts =>
      simp [StartsAtHome]

theorem ofString_startsAtHome
    {s : String} (h : s.toList.head? = some '~') :
    (ofString s).StartsAtHome := by
  obtain ⟨rest, hs⟩ := List.head?_eq_some_iff.1 h
  obtain ⟨first, more, hpieces⟩ := List.exists_cons_of_ne_nil (Text.pieces_ne_nil (· == '/') rest)
  refine ⟨by simp [ofString, hs, rootOf], ?_⟩
  have hcut : Text.pieces (· == '/') s.toList = ('~' :: first) :: more := by
    rw [hs, Text.pieces, if_neg (by decide), hpieces]
  have hname : String.ofList ('~' :: first) ≠ "" ∧ String.ofList ('~' :: first) ≠ "." := by
    constructor <;> exact fun heq => by simpa using congrArg String.toList heq
  unfold ofString
  dsimp only
  rw [hcut, List.map_cons, List.filter_cons_of_pos (by simpa using hname)]
  simp

end Tildes

/-! ## Double dots -/

/-- One component after another, with double dots taken as steps up; the last one first. -/
def climb (above parts : List String) : List String :=
  parts.foldl (fun above part => if part = ".." then above.drop 1 else part :: above) above

theorem stepUp_eq_climb
    (parts : List String) :
    stepUp parts = (climb [] parts).reverse := by
  rfl

theorem not_mem_climb
    {above parts : List String} (h : ".." ∉ above) :
    ".." ∉ climb above parts := by
  induction parts generalizing above with
  | nil =>
      exact h
  | cons part parts ih =>
      refine ih ?_
      dsimp only
      split
      · exact fun hmem => h (List.mem_of_mem_drop hmem)
      · rename_i hpart
        exact fun hmem => (List.mem_cons.1 hmem).elim (fun heq => hpart heq.symm) h

theorem climb_of_not_mem
    {above parts : List String} (h : ".." ∉ parts) :
    climb above parts = parts.reverse ++ above := by
  induction parts generalizing above with
  | nil =>
      rfl
  | cons part parts ih =>
      obtain ⟨hpart, hparts⟩ := not_or.1 (mt List.mem_cons.2 h)
      rw [climb, List.foldl_cons, if_neg (Ne.symm hpart)]
      exact (ih hparts).trans (by simp)

/-- Double dots may be resolved in front first. -/
theorem stepUp_append
    (parts more : List String) :
    stepUp (stepUp parts ++ more) = stepUp (parts ++ more) := by
  have hdots : ".." ∉ stepUp parts := by
    rw [stepUp_eq_climb, List.mem_reverse]
    exact not_mem_climb List.not_mem_nil
  have hfirst : climb [] (stepUp parts) = climb [] parts := by
    rw [climb_of_not_mem hdots, stepUp_eq_climb, List.reverse_reverse, List.append_nil]
  simp only [stepUp_eq_climb, climb, List.foldl_append] at hfirst ⊢
  rw [hfirst]

/-- A name at the end stays at the end. -/
theorem stepUp_concat
    (parts : List String) {name : String} (h : name ≠ "..") :
    stepUp (parts ++ [name]) = stepUp parts ++ [name] := by
  simp [stepUp, h]

end Path

namespace Host

variable {p q : Path}

theorem expand_of_not_startsAtHome
    (h : Host) (hp : ¬ p.StartsAtHome) :
    h.expand p = .ok p := by
  rw [expand, Path.expandHome?_of_not_startsAtHome hp]

theorem hasNames_of_expand
    {h : Host} (hp : p.HasNames) (hexpand : h.expand p = .ok q) :
    q.HasNames := by
  unfold expand at hexpand
  split at hexpand
  · rename_i found hfound
    exact Except.ok.inj hexpand ▸ hp.expandHome? hfound
  · contradiction

/-- A path below another one leads to where it leads from there. -/
theorem place_join
    (h : Host) (hq : q.root = .here) :
    h.place (p.join q) = q.resolve (h.place p) := by
  unfold place Path.resolve Path.join
  rw [if_pos hq, if_pos hq, Path.stepUp_append]
  split <;> simp

/-- A path that ends in a name leads to an entry of the directory that holds it. -/
theorem place_parent
    (h : Host) {name : String} (hlast : p.parts.getLast? = some name) (hname : name ≠ "..") :
    h.place p.parent = (h.place p).dropLast := by
  obtain ⟨parts, hparts⟩ := List.getLast?_eq_some_iff.1 hlast
  unfold place Path.resolve Path.parent
  rw [hparts, List.dropLast_concat, ← List.append_assoc]
  split
  · rw [Path.stepUp_concat _ hname, List.dropLast_concat]
  · rw [Path.stepUp_concat _ hname, List.dropLast_concat]

end Host
end Killswitch
