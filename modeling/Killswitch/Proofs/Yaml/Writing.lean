import Killswitch.Yaml.Value
import Mathlib.Data.List.Perm.Subperm
import Mathlib.Logic.Relation

/-!
# Writing values out

A value is written out as a text unless an integer with too many digits is a part of it, at whatever depth. A value
may be a part of itself; such a part is only marked, and so every part is looked at once around each path that leads
to it.

**The invariant.** While the parts of a value are written out, the places around are different places of containers.
So there are at most as many of them as the document has values, and the fuel is not used up before a place comes
again.

**Results.**
* `UnlessLong`: an outcome that is a text, unless there is an integer in the way;
* `LongInside`, `longInside_iff`: an integer that is met on the way without coming to a place again, which is there
  if there is one at all;
* `shown_unlessLong`, `plain_unlessLong`: the values that can be written out.
-/

namespace Killswitch
namespace Yaml

/-! ## Outcomes -/

/-- An outcome that is there, unless something holds; then it is the fault of an integer with too many digits. -/
inductive UnlessLong {α : Type} (long : Prop) : Except Fault α → Prop
  | written (r : α) (hnone : ¬ long) :
      UnlessLong long (.ok r)
  | refused (hlong : long) :
      UnlessLong long (.error .longIntegerText)

namespace UnlessLong

variable {α β : Type} {long more : Prop} {x : Except Fault α}

theorem of_iff
    (hx : UnlessLong long x) (hiff : long ↔ more) :
    UnlessLong more x := by
  rwa [← propext hiff]

/-- An outcome is missing if something is in the way, and only then. -/
theorem error_iff
    (hx : UnlessLong long x) {f : Fault} :
    x = .error f ↔ long ∧ f = .longIntegerText := by
  cases hx with
  | written r hnone =>
      exact ⟨fun h => absurd h (by simp), fun h => absurd h.1 hnone⟩
  | refused hlong =>
      exact ⟨fun h => ⟨hlong, (Except.error.inj h).symm⟩, fun h => h.2 ▸ rfl⟩

theorem bind
    {f : α → Except Fault β}
    (hx : UnlessLong long x) (hf : ∀ r, UnlessLong more (f r)) :
    UnlessLong (long ∨ more) (x >>= f) := by
  cases hx with
  | written r hnone =>
      exact (hf r).of_iff (or_iff_right hnone).symm
  | refused hlong =>
      exact .refused (.inl hlong)

theorem map
    (f : α → β) (hx : UnlessLong long x) :
    UnlessLong long (f <$> x) := by
  cases hx with
  | written r hnone =>
      exact .written (f r) hnone
  | refused hlong =>
      exact .refused hlong

theorem ite
    (short : Prop) [Decidable short] (r : α) :
    UnlessLong (¬ short) (if short then .ok r else .error .longIntegerText) := by
  split
  · rename_i hshort
    exact .written r (not_not_intro hshort)
  · rename_i hlong
    exact .refused hlong

/-- A pass over a list is stopped by what is in the way of an item. -/
theorem mapM
    {f : α → Except Fault β} {inTheWay : α → Prop} {items : List α}
    (hf : ∀ a ∈ items, UnlessLong (inTheWay a) (f a)) :
    UnlessLong (∃ a ∈ items, inTheWay a) (items.mapM f) := by
  induction items with
  | nil =>
      exact .written [] (by simp)
  | cons a items ih =>
      obtain ⟨ha, hitems⟩ := List.forall_mem_cons.1 hf
      rw [List.mapM_cons, List.exists_mem_cons_iff]
      exact ha.bind (fun b => (ih hitems).map (b :: ·))

end UnlessLong

/-! ## Atoms -/

/-- An integer with too many digits. -/
def Atom.IsLong : Atom → Prop
  | .integer n => ¬ n.natAbs < Nat.pow 10 Decimal.longestInteger
  | _ => False

theorem Atom.shown_unlessLong
    (a : Atom) :
    UnlessLong a.IsLong a.shown := by
  cases a with
  | integer n =>
      exact .ite (n.natAbs < Nat.pow 10 Decimal.longestInteger) (toString n)
  | _ =>
      exact .written _ id

theorem Atom.plain_unlessLong
    (a : Atom) :
    UnlessLong a.IsLong a.plain := by
  cases a with
  | text _ | date _ | moment _ =>
      exact .written _ id
  | _ =>
      exact Atom.shown_unlessLong _

namespace Members

theorem map_settle
    (slots : Nat) (settled coded : List (Nat × Atom)) :
    (settle slots settled coded).map (·.2) = settled.map (·.2) ++ coded.map (·.2) := by
  induction coded generalizing settled with
  | nil =>
      simp [settle]
  | cons c coded ih =>
      simp [settle, ih]

/-- Members with their codes are the members. -/
theorem map_of_coded
    {members : List Atom} {coded : List (Nat × Atom)}
    (hcoded : members.mapM (fun a => (code? a).map (·, a)) = some coded) :
    coded.map (·.2) = members := by
  induction members generalizing coded with
  | nil =>
      obtain rfl := Option.some.inj hcoded
      rfl
  | cons a members ih =>
      rw [List.mapM_cons] at hcoded
      obtain ⟨first, hfirst, hrest⟩ := Option.bind_eq_some_iff.1 hcoded
      obtain ⟨rest, hmembers, hcons⟩ := Option.bind_eq_some_iff.1 hrest
      obtain ⟨code, -, rfl⟩ := Option.map_eq_some_iff.1 hfirst
      obtain rfl := Option.some.inj hcons
      exact congrArg (a :: ·) (ih hmembers)

/-- The members of a set are shown in some order, and none is left out. -/
theorem mem_ordered
    {members : List Atom} {a : Atom} :
    a ∈ ordered members ↔ a ∈ members := by
  unfold ordered
  split
  · rename_i coded hcoded
    have hsettled := map_settle (slotCount members.length) [] coded
    rw [List.map_nil, List.nil_append, map_of_coded hcoded] at hsettled
    have hperm := (List.mergeSort_perm (settle (slotCount members.length) [] coded)
      (fun a b => a.1 ≤ b.1)).map (·.2)
    rw [hperm.mem_iff, hsettled]
  · exact Iff.rfl

end Members

/-! ## Parts of a value -/

namespace Value

/-- The places of the parts of a value. -/
def parts : Value → List Nat
  | .list items => items
  | .mapping entries => entries.map (·.2)
  | .pair first second => [first, second]
  | _ => []

/-- An integer with too many digits that a value has by itself: as an atom, a key or a member. -/
def HasLong : Value → Prop
  | .atom a => a.IsLong
  | .mapping entries => ∃ e ∈ entries, e.1.IsLong
  | .set members => ∃ a ∈ members, a.IsLong
  | _ => False

end Value

namespace Document

variable {d : Document} {around other : List Nat} {place part : Nat}

/-- A value is a part of another one. -/
def IsPart (d : Document) (place part : Nat) : Prop :=
  part ∈ (d.value place).parts

/-- An integer with too many digits is a part of a value, at whatever depth, or the value itself. -/
def HoldsLong (d : Document) (place : Nat) : Prop :=
  ∃ part, Relation.ReflTransGen d.IsPart place part ∧ (d.value part).HasLong

theorem holdsLong_of_integer
    {n : Nat} (hvalue : d.value place = .atom (.integer (Int.ofNat n)))
    (hlong : ¬ n < Nat.pow 10 Decimal.longestInteger) :
    d.HoldsLong place :=
  ⟨place, .refl, hvalue ▸ hlong⟩

/-- An integer with too many digits is met on the way through the parts of a value without coming to the places
around, or to any place twice. -/
inductive LongInside (d : Document) : (around : List Nat) → (place : Nat) → Prop
  | own {around : List Nat} {place : Nat}
      (hnew : place ∉ around)
      (hlong : (d.value place).HasLong) :
      LongInside d around place
  | part {around : List Nat} {place part : Nat}
      (hnew : place ∉ around)
      (hpart : d.IsPart place part)
      (hinside : LongInside d (place :: around) part) :
      LongInside d around place

namespace LongInside

/-- With fewer places around, what is met stays met. -/
theorem mono
    (h : LongInside d around place) (hsub : other ⊆ around) :
    LongInside d other place := by
  induction h generalizing other with
  | own hnew hlong =>
      exact .own (fun hmem => hnew (hsub hmem)) hlong
  | part hnew hpart _ ih =>
      exact .part (fun hmem => hnew (hsub hmem)) hpart (ih (List.cons_subset_cons _ hsub))

/-- One more place around is avoided, or the integer is met from there. -/
theorem avoid
    (h : LongInside d around place) (more : Nat) :
    LongInside d (more :: around) place ∨ LongInside d around more := by
  by_cases hmore : place = more
  · exact .inr (hmore ▸ h)
  induction h with
  | own hnew hlong =>
      exact .inl (.own (by simp [hmore, hnew]) hlong)
  | @part around place part hnew hpart hinside ih =>
      by_cases hsame : part = more
      · subst hsame
        exact .inr (hinside.mono (List.subset_cons_self _ _))
      · rcases ih hsame with hleft | hright
        · exact .inl (.part (by simp [hmore, hnew]) hpart (hleft.mono (by simp [List.subset_def]; tauto)))
        · exact .inr (hright.mono (List.subset_cons_self _ _))

end LongInside

/-- An integer with too many digits is met without coming to a place twice if there is one at all. -/
theorem longInside_iff :
    LongInside d [] place ↔ d.HoldsLong place := by
  constructor
  · generalize ([] : List Nat) = around
    intro h
    induction h with
    | own _ hlong =>
        exact ⟨_, .refl, hlong⟩
    | part _ hpart _ ih =>
        obtain ⟨inner, hreach, hlong⟩ := ih
        exact ⟨inner, .head hpart hreach, hlong⟩
  · rintro ⟨inner, hreach, hlong⟩
    induction hreach using Relation.ReflTransGen.head_induction_on with
    | refl =>
        exact .own List.not_mem_nil hlong
    | @head place part hpart _ ih =>
        rcases ih.avoid place with hinside | hown
        · exact .part List.not_mem_nil hpart hinside
        · exact hown

/-! ## Texts of values -/

/-- The places around a value while it is written out: different ones, and each that of a value of the document. -/
structure Around (d : Document) (around : List Nat) : Prop where
  nodup : around.Nodup
  lt_size : ∀ place ∈ around, place < d.values.size

theorem Around.length_le
    (h : Around d around) :
    around.length ≤ d.values.size := by
  have hsub : around ⊆ List.range d.values.size := fun place hplace => List.mem_range.2 (h.lt_size place hplace)
  simpa using (List.subperm_of_subset h.nodup hsub).length_le

/-- A value with parts is in the table of the document. -/
theorem lt_size_of_isPart
    (h : d.IsPart place part) :
    place < d.values.size := by
  by_contra hge
  have hnone : d.values[place]? = none := Array.getElem?_eq_none (Nat.not_lt.1 hge)
  simp [IsPart, value, hnone, Value.parts] at h

theorem Around.cons
    (h : Around d around) (hnew : place ∉ around) (hpart : d.IsPart place part) :
    Around d (place :: around) where
  nodup := List.nodup_cons.2 ⟨hnew, h.nodup⟩
  lt_size := List.forall_mem_cons.2 ⟨lt_size_of_isPart hpart, h.lt_size⟩

/-- What stands in the way of a value outside of the places around: it has an integer with too many digits itself, or
that is inside one of its parts. -/
theorem longInside_iff_of_not_mem
    (hnew : place ∉ around) :
    LongInside d around place ↔
      (d.value place).HasLong ∨ ∃ part ∈ (d.value place).parts, LongInside d (place :: around) part := by
  constructor
  · rintro (⟨-, hlong⟩ | ⟨-, hpart, hinside⟩)
    · exact .inl hlong
    · exact .inr ⟨_, hpart, hinside⟩
  · rintro (hlong | ⟨part, hpart, hinside⟩)
    · exact .own hnew hlong
    · exact .part hnew hpart hinside

theorem shownInside_unlessLong
    {fuel : Nat}
    (haround : Around d around) (hfuel : fuel + around.length = d.values.size + 1) :
    UnlessLong (LongInside d around place) (d.shownInside fuel around place) := by
  induction fuel generalizing around place with
  | zero =>
      have hle := haround.length_le
      omega
  | succ fuel ih =>
      unfold shownInside
      by_cases hmem : place ∈ around
      · rw [if_pos hmem]
        refine .written _ (fun h => ?_)
        cases h with
        | own hnew _ => exact hnew hmem
        | part hnew _ _ => exact hnew hmem
      rw [if_neg hmem]
      have hparts : ∀ part ∈ (d.value place).parts,
          UnlessLong (LongInside d (place :: around) part) (d.shownInside fuel (place :: around) part) :=
        fun part hpart => ih (haround.cons hmem hpart) (by rw [List.length_cons]; omega)
      refine UnlessLong.of_iff ?_ (longInside_iff_of_not_mem hmem).symm
      cases hvalue : d.value place with
      | atom a =>
          exact a.shown_unlessLong.of_iff (by simp [Value.HasLong, Value.parts])
      | list items =>
          rw [hvalue] at hparts
          exact ((UnlessLong.mapM hparts).map _).of_iff (by simp [Value.HasLong, Value.parts])
      | mapping entries =>
          rw [hvalue] at hparts
          have hentry : ∀ e ∈ entries, UnlessLong (e.1.IsLong ∨ LongInside d (place :: around) e.2)
              (do return (← e.1.shown) ++ ": " ++ (← d.shownInside fuel (place :: around) e.2)) :=
            fun e he => e.1.shown_unlessLong.bind
              (fun _ => (hparts e.2 (List.mem_map_of_mem he)).map _)
          refine ((UnlessLong.mapM hentry).map _).of_iff ⟨?_, ?_⟩
          · rintro ⟨e, he, hlong | hinside⟩
            · exact .inl ⟨e, he, hlong⟩
            · exact .inr ⟨e.2, List.mem_map_of_mem he, hinside⟩
          · rintro (⟨e, he, hlong⟩ | ⟨part, hpart, hinside⟩)
            · exact ⟨e, he, .inl hlong⟩
            · obtain ⟨e, he, rfl⟩ := List.mem_map.1 hpart
              exact ⟨e, he, .inr hinside⟩
      | set members =>
          have hmembers : UnlessLong (∃ a ∈ Members.ordered members, a.IsLong)
              ((Members.ordered members).mapM Atom.shown) :=
            .mapM (fun a _ => a.shown_unlessLong)
          by_cases hempty : members.isEmpty
          · rw [List.isEmpty_iff.1 hempty]
            exact .written _ (by simp [Value.HasLong, Value.parts])
          · dsimp only
            rw [if_neg hempty]
            exact (hmembers.map _).of_iff (by simp [Value.HasLong, Value.parts, Members.mem_ordered])
      | pair first second =>
          rw [hvalue] at hparts
          have hfirst := hparts first (by simp [Value.parts])
          have hsecond := hparts second (by simp [Value.parts])
          exact (hfirst.bind (fun _ => hsecond.map _)).of_iff (by simp [Value.HasLong, Value.parts])

/-- A value can be shown unless it holds an integer with too many digits. -/
theorem shown_unlessLong :
    UnlessLong (d.HoldsLong place) (d.shown place) :=
  (shownInside_unlessLong ⟨List.nodup_nil, by simp⟩ rfl).of_iff longInside_iff

/-- A value can be a text of its own unless it holds an integer with too many digits. -/
theorem plain_unlessLong :
    UnlessLong (d.HoldsLong place) (d.plain place) := by
  unfold plain
  split
  · rename_i a hvalue
    have hown : d.HoldsLong place ↔ a.IsLong := by
      rw [← longInside_iff, longInside_iff_of_not_mem List.not_mem_nil, hvalue]
      simp [Value.HasLong, Value.parts]
    exact a.plain_unlessLong.of_iff hown.symm
  · exact shown_unlessLong

end Document

end Yaml
end Killswitch
