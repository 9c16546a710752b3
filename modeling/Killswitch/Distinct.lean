/-!
# First occurrences

Destinations and interfaces are kept in the order in which they are first named, each one once.

**Contents.**
* `Distinct.extend`: a list with those of some new items that it does not have yet;
* `Distinct.of`: the first occurrences of the items of a list;
* `mem_extend`, `nodup_extend`: nothing is lost, and nothing is there twice;
* `of_eq_eraseDups`: the first occurrences are those that the library keeps;
* `of_append_of`: a list without its repetitions may be taken apart first.
-/

namespace Killswitch
namespace Distinct

variable {α : Type} [DecidableEq α]

/-- A list with an item at its end, unless it has the item. -/
def add (found : List α) (item : α) : List α :=
  if item ∈ found then found else found ++ [item]

/-- A list with the items at its end that it does not have yet. -/
def extend (found items : List α) : List α :=
  items.foldl add found

/-- The first occurrences of the items of a list. -/
def of (items : List α) : List α :=
  extend [] items

@[simp] theorem extend_nil
    (found : List α) :
    extend found [] = found := by
  rfl

@[simp] theorem extend_cons
    (found : List α) (item : α) (items : List α) :
    extend found (item :: items) = extend (add found item) items := by
  rfl

theorem extend_append
    (found items more : List α) :
    extend found (items ++ more) = extend (extend found items) more := by
  simp [extend]

@[simp] theorem mem_add
    {found : List α} {item a : α} :
    a ∈ add found item ↔ a ∈ found ∨ a = item := by
  unfold add
  split
  · constructor
    · exact Or.inl
    · rintro (h | rfl)
      · exact h
      · assumption
  · simp

/-- Extending a list loses no item and adds no other one than those given. -/
@[simp] theorem mem_extend
    {found items : List α} {a : α} :
    a ∈ extend found items ↔ a ∈ found ∨ a ∈ items := by
  induction items generalizing found with
  | nil =>
      simp
  | cons item items ih =>
      simp [ih, or_assoc]

@[simp] theorem mem_of
    {items : List α} {a : α} :
    a ∈ of items ↔ a ∈ items := by
  simp [of]

theorem nodup_add
    {found : List α} (h : found.Nodup) (item : α) :
    (add found item).Nodup := by
  unfold add
  split
  · exact h
  · rename_i hne
    refine List.nodup_append.2 ⟨h, by simp, ?_⟩
    intro a ha b hb hab
    simp only [List.mem_singleton] at hb
    subst hb
    exact hne (hab ▸ ha)

/-- A list without repetition stays one. -/
theorem nodup_extend
    {found : List α} (h : found.Nodup) (items : List α) :
    (extend found items).Nodup := by
  induction items generalizing found with
  | nil =>
      exact h
  | cons item items ih =>
      exact ih (nodup_add h item)

/-- A list is not extended by items that it has. -/
theorem extend_eq_self
    {found items : List α} (h : ∀ a ∈ items, a ∈ found) :
    extend found items = found := by
  induction items with
  | nil =>
      rfl
  | cons item items ih =>
      rw [extend_cons, add, if_pos (h item List.mem_cons_self)]
      exact ih (fun a ha => h a (List.mem_cons_of_mem item ha))

theorem removeAll_append_singleton
    (items found : List α) (item : α) :
    items.removeAll (found ++ [item]) = (items.removeAll found).filter (fun b => !b == item) := by
  simp only [List.removeAll, List.filter_filter]
  refine List.filter_congr (fun b _ => ?_)
  by_cases hb : b = item <;> simp [hb]

/-- The items that are added are those that the list does not have yet, the first occurrence of each. -/
theorem extend_eq_append
    (found items : List α) :
    extend found items = found ++ (items.removeAll found).eraseDups := by
  induction items generalizing found with
  | nil =>
      simp [List.removeAll]
  | cons item items ih =>
      rw [extend_cons, ih, add]
      by_cases hitem : item ∈ found
      · have hcons : (item :: items).removeAll found = items.removeAll found := by
          simp [List.removeAll, hitem]
        rw [if_pos hitem, hcons]
      · have hcons : (item :: items).removeAll found = item :: items.removeAll found := by
          simp [List.removeAll, hitem]
        rw [if_neg hitem, hcons, List.eraseDups_cons, removeAll_append_singleton,
          List.append_assoc, List.singleton_append]

theorem of_eq_eraseDups
    (items : List α) :
    of items = items.eraseDups := by
  have hall : items.removeAll [] = items := by
    simp [List.removeAll]
  rw [of, extend_eq_append, hall, List.nil_append]

/-- A list that is extended by another one, which is extended itself, is extended by both in turn. -/
theorem extend_extend
    (found more items : List α) :
    extend found (extend more items) = extend (extend found more) items := by
  induction items generalizing more with
  | nil =>
      rfl
  | cons item items ih =>
      have hadd : extend found (add more item) = add (extend found more) item := by
        unfold add
        by_cases hitem : item ∈ more
        · rw [if_pos hitem, if_pos (mem_extend.2 (.inr hitem))]
        · rw [if_neg hitem, extend_append, extend_cons, extend_nil, add]
      rw [extend_cons, ih, hadd, extend_cons]

@[simp] theorem extend_of
    (found items : List α) :
    extend found (of items) = extend found items :=
  extend_extend found [] items

theorem of_append
    (items more : List α) :
    of (items ++ more) = extend (of items) more :=
  extend_append [] items more

/-- Repetitions may be taken out of the parts of a list before they are taken out of the whole. -/
theorem of_append_of
    (items more : List α) :
    of (of items ++ of more) = of (items ++ more) := by
  have hfirst : of (of items) = of items := extend_of [] items
  rw [of_append, hfirst, extend_of, ← of_append]

end Distinct
end Killswitch
