import Killswitch.Proofs.Action.Consult
import Mathlib.Data.List.Forall2

/-!
# Passes over lists

A pass applies a function that may fail to the items of a list, one after the other, and ends with the first
failure. A filter that may fail keeps the items for which the answer is yes.

**Results.**
* `mapM_ok_or_error`, `mapM_eq_error_iff`: a pass fails as the first item that has no result;
* `mem_of_mapM`, `mem_of_filterM`: the results of a pass, and what a filter keeps;
* `mapM_eq_ok_iff`, `mapError_eq_ok_iff`, `mapM_mapError`: the results of a pass item by item, and failures that are
  renamed;
* `filterM_eq_ok`, `filterM_eq_error`: a filter that answers for every item, and one that does not;
* `ok_or_iff_of_escapes`: an outcome is a result or a failure of a kind, unless another failure escapes.
-/

namespace Killswitch
namespace Action

variable {α β : Type}

/-- If the failures that are not of a kind are known, an outcome is a result or a failure of the kind
wherever there is none of them. -/
theorem ok_or_iff_of_escapes
    {outcome : Except Failure α} {kind escapes : Failure → Prop}
    (h : ∀ f, outcome = .error f ∧ ¬ kind f ↔ escapes f) :
    ((∃ x, outcome = .ok x) ∨ ∃ f, outcome = .error f ∧ kind f) ↔ ∀ f, ¬ escapes f := by
  constructor
  · rintro (⟨x, hok⟩ | ⟨g, hfail, hkind⟩) f hf
    · obtain ⟨hfail, -⟩ := (h f).2 hf
      rw [hok] at hfail
      contradiction
    · obtain ⟨hsame, hforeign⟩ := (h f).2 hf
      rw [Except.error.inj (hfail.symm.trans hsame)] at hkind
      exact hforeign hkind
  · intro hnone
    cases hend : outcome with
    | ok x =>
        exact .inl ⟨x, rfl⟩
    | error f =>
        exact .inr ⟨f, rfl, Classical.byContradiction (fun hforeign => hnone f ((h f).1 ⟨hend, hforeign⟩))⟩

section Passes

variable {f : α → Except Failure β}

/-- A pass over a list has a result for every item, or ends with the failure of the first item that
has none. -/
theorem mapM_ok_or_error
    (f : α → Except Failure β) (items : List α) :
    ((∃ results, items.mapM f = .ok results) ∧ ∀ x ∈ items, ∃ y, f x = .ok y)
      ∨ ∃ earlier x later e, items = earlier ++ x :: later
          ∧ (∀ y ∈ earlier, ∃ z, f y = .ok z)
          ∧ f x = .error e
          ∧ items.mapM f = .error e := by
  induction items with
  | nil =>
      exact .inl ⟨⟨[], rfl⟩, by simp⟩
  | cons x items ih =>
      rw [List.mapM_cons]
      cases hx : f x with
      | error e =>
          exact .inr ⟨[], x, items, e, rfl, by simp, hx, rfl⟩
      | ok y =>
          rcases ih with ⟨⟨results, hall⟩, hok⟩ | ⟨earlier, z, later, e, rfl, hok, hz, hall⟩
          · refine .inl ⟨⟨y :: results, by rw [hall]; rfl⟩, ?_⟩
            simpa [hx] using hok
          · refine .inr ⟨x :: earlier, z, later, e, rfl, ?_, hz, by rw [hall]; rfl⟩
            simpa [hx] using hok

theorem map_eq_error_iff
    {g : α → β} {x : Except Failure α} {e : Failure} :
    g <$> x = .error e ↔ x = .error e := by
  cases x <;> simp [Functor.map, Except.map]

theorem mapM_eq_ok_of_forall
    {items : List α} (hok : ∀ x ∈ items, ∃ y, f x = .ok y) :
    ∃ results, items.mapM f = .ok results := by
  rcases mapM_ok_or_error f items with ⟨hall, -⟩ | ⟨earlier, x, later, e, rfl, -, hx, -⟩
  · exact hall
  · obtain ⟨y, hy⟩ := hok x (by simp)
    rw [hx] at hy
    contradiction

/-- Every result of a pass is that of an item. -/
theorem mem_of_mapM
    {items : List α} {results : List β} {y : β}
    (hall : items.mapM f = .ok results) (hy : y ∈ results) :
    ∃ x ∈ items, f x = .ok y := by
  induction items generalizing results with
  | nil =>
      obtain rfl : [] = results := Except.ok.inj hall
      contradiction
  | cons x items ih =>
      rw [List.mapM_cons] at hall
      obtain ⟨first, hfirst, hall⟩ := bind_eq_ok_iff.1 hall
      obtain ⟨rest, hrest, hall⟩ := bind_eq_ok_iff.1 hall
      obtain rfl := Except.ok.inj hall
      rcases List.mem_cons.1 hy with rfl | hy
      · exact ⟨x, List.mem_cons_self, hfirst⟩
      · obtain ⟨z, hz, hresult⟩ := ih hrest hy
        exact ⟨z, List.mem_cons_of_mem x hz, hresult⟩

/-- A pass over a list fails as the first item that has no result. -/
theorem mapM_eq_error_iff
    {items : List α} {e : Failure} :
    items.mapM f = .error e
      ↔ ∃ earlier x later, items = earlier ++ x :: later
          ∧ (∀ y ∈ earlier, ∃ z, f y = .ok z)
          ∧ f x = .error e := by
  constructor
  · intro hfail
    rcases mapM_ok_or_error f items with ⟨⟨results, hall⟩, -⟩ | ⟨earlier, x, later, g, hsplit, hok, hx, hstop⟩
    · rw [hall] at hfail
      contradiction
    · obtain rfl := Except.error.inj (hstop.symm.trans hfail)
      exact ⟨earlier, x, later, hsplit, hok, hx⟩
  · rintro ⟨earlier, x, later, rfl, hok, hx⟩
    obtain ⟨results, hresults⟩ := mapM_eq_ok_of_forall hok
    rw [List.mapM_append, hresults, ok_bind, List.mapM_cons, hx]
    rfl

end Passes

section Renamed

variable {ε δ : Type} {f : α → Except ε β}

/-- A pass has one result for every item, in their order. -/
theorem mapM_eq_ok_iff
    {items : List α} {results : List β} :
    items.mapM f = .ok results ↔ List.Forall₂ (fun x y => f x = .ok y) items results := by
  induction items generalizing results with
  | nil =>
      rw [List.forall₂_nil_left_iff]
      exact ⟨fun h => (Except.ok.inj h).symm, fun h => h ▸ rfl⟩
  | cons x items ih =>
      rw [List.mapM_cons, bind_eq_ok_iff, List.forall₂_cons_left_iff]
      constructor
      · rintro ⟨y, hy, hrest⟩
        obtain ⟨ys, hys, hcons⟩ := bind_eq_ok_iff.1 hrest
        exact ⟨y, ys, hy, ih.1 hys, (Except.ok.inj hcons).symm⟩
      · rintro ⟨y, ys, hy, hys, rfl⟩
        exact ⟨y, hy, by rw [ih.2 hys]; rfl⟩

theorem mapError_eq_ok_iff
    {g : ε → δ} {x : Except ε α} {r : α} :
    x.mapError g = .ok r ↔ x = .ok r := by
  cases x <;> simp [Except.mapError]

/-- A pass whose failures are renamed fails as the pass does, renamed. -/
theorem mapM_mapError
    (g : ε → δ) (items : List α) :
    items.mapM (fun x => (f x).mapError g) = (items.mapM f).mapError g := by
  induction items with
  | nil =>
      rfl
  | cons x items ih =>
      rw [List.mapM_cons, List.mapM_cons, ih]
      cases f x with
      | error e =>
          rfl
      | ok y =>
          cases items.mapM f <;> rfl

end Renamed

section Filters

variable {ε : Type} {p : α → Except ε Bool}

theorem mem_of_filterAuxM
    {items kept result : List α}
    (h : items.filterAuxM p kept = .ok result) {x : α} (hx : x ∈ result) :
    x ∈ kept ∨ p x = .ok true := by
  induction items generalizing kept with
  | nil =>
      obtain rfl := Except.ok.inj h
      exact .inl hx
  | cons y items ih =>
      obtain ⟨holds, hy, hrest⟩ := bind_eq_ok_iff.1 h
      cases holds with
      | false =>
          exact ih hrest
      | true =>
          rcases ih hrest with hkept | hpass
          · rcases List.mem_cons.1 hkept with rfl | hkept
            · exact .inr hy
            · exact .inl hkept
          · exact .inr hpass

/-- A filter keeps only what passes. -/
theorem mem_of_filterM
    {items result : List α}
    (h : items.filterM p = .ok result) {x : α} (hx : x ∈ result) :
    p x = .ok true := by
  obtain ⟨kept, hkept, hresult⟩ := bind_eq_ok_iff.1 h
  obtain rfl := Except.ok.inj hresult
  rcases mem_of_filterAuxM hkept (List.mem_reverse.1 hx) with hnone | hpass
  · contradiction
  · exact hpass

/-- A filter that answers for every item keeps those for which the answer is yes. -/
theorem filterM_eq_ok
    {q : α → Bool} {items : List α} (hall : ∀ x ∈ items, p x = .ok (q x)) :
    items.filterM p = .ok (items.filter q) := by
  have hkept : ∀ kept, items.filterAuxM p kept = .ok ((items.filter q).reverse ++ kept) := by
    induction items with
    | nil =>
        intro kept
        rfl
    | cons x items ih =>
        intro kept
        obtain ⟨hx, hitems⟩ := List.forall_mem_cons.1 hall
        rw [List.filterAuxM, hx]
        refine (ih hitems _).trans (congrArg Except.ok ?_)
        cases hq : q x <;> simp [hq]
  rw [List.filterM, hkept []]
  exact congrArg Except.ok (by simp)

/-- A filter fails as the first item for which it has no answer. -/
theorem filterM_eq_error
    {earlier later : List α} {x : α} {e : ε}
    (hall : ∀ y ∈ earlier, ∃ holds, p y = .ok holds) (hx : p x = .error e) :
    (earlier ++ x :: later).filterM p = .error e := by
  have hkept : ∀ kept, (earlier ++ x :: later).filterAuxM p kept = .error e := by
    induction earlier with
    | nil =>
        intro kept
        rw [List.nil_append, List.filterAuxM, hx]
        rfl
    | cons y earlier ih =>
        intro kept
        obtain ⟨⟨holds, hy⟩, hearlier⟩ := List.forall_mem_cons.1 hall
        rw [List.cons_append, List.filterAuxM, hy]
        exact ih hearlier _
  rw [List.filterM, hkept []]
  rfl

end Filters

end Action

end Killswitch
