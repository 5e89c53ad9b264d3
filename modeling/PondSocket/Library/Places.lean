import Mathlib.Data.List.Basic
import Mathlib.Algebra.GroupWithZero.Nat

namespace Library

open List Option

variable {Item : Type} (items : List Item) (place : Nat)

-- A list around one of its places, and what removing or replacing it leaves.
theorem split_place (item : Item) (there : items[place]? = some item) :
    items = items.take place ++ item :: items.drop (place + 1) ∧
      items.eraseIdx place = items.take place ++ items.drop (place + 1) ∧
        ∀ other, items.set place other = items.take place ++ other :: items.drop (place + 1) := by
  obtain ⟨inside, same⟩ := List.getElem?_eq_some_iff.mp there
  refine ⟨?_, eraseIdx_eq_take_drop_succ items place, fun other => set_eq_take_append_cons_drop.trans (if_pos inside)⟩
  rw [← same, getElem_cons_drop, take_append_drop]

variable {items} in
theorem get_concat {last found : Item} {place : Nat} (there : (items ++ [last])[place]? = some found) :
    items[place]? = some found ∨ (place = items.length ∧ found = last) := by
  rcases Nat.lt_trichotomy place items.length with before | same | after
  · rw [getElem?_append_left before] at there
    exact .inl there
  · rw [same, getElem?_concat_length] at there
    exact .inr ⟨same, (some.inj there).symm⟩
  · rw [getElem?_eq_none (by simp; omega)] at there
    cases there

variable {items} in
theorem get_modify {change : Item → Item} {place other : Nat} {found : Item}
    (there : (items.modify place change)[other]? = some found) :
    ∃ before, items[other]? = some before ∧ found = if place = other then change before else before := by
  rw [List.getElem?_modify, Option.map_eq_map, Option.map_eq_some_iff] at there
  obtain ⟨before, held, same⟩ := there
  exact ⟨before, held, same.symm⟩

theorem get_set (place other : Nat) (new found : Item) (there : (items.set place new)[other]? = some found) :
    (other = place ∧ found = new) ∨ (other ≠ place ∧ items[other]? = some found) := by
  rw [getElem?_set] at there
  by_cases same : place = other
  · rw [if_pos same] at there
    split at there
    · exact .inl ⟨same.symm, (some.inj there).symm⟩
    · cases there
  · rw [if_neg same] at there
    exact .inr ⟨fun equal => same equal.symm, there⟩

theorem count_erase {gone : Item} (p : Item → Bool)
    (there : items[place]? = some gone) :
    (items.eraseIdx place).countP p + (if p gone then 1 else 0) = items.countP p := by
  obtain ⟨split, erased, _⟩ := split_place items place gone there
  rw [erased]
  conv_rhs => rw [split]
  rw [countP_append, countP_append, countP_cons]
  omega

variable {items place} in
theorem mem_erase_or {gone item : Item}
    (there : items[place]? = some gone) (member : item ∈ items) : item = gone ∨ item ∈ items.eraseIdx place := by
  obtain ⟨index, held⟩ := mem_iff_getElem?.mp member
  by_cases same : index = place
  · rw [same, there] at held
    exact .inl (some.inj held).symm
  · exact .inr (mem_eraseIdx_iff_getElem?.mpr ⟨index, same, held⟩)

variable {items place} in
theorem mem_set_or {gone new item : Item}
    (there : items[place]? = some gone) (member : item ∈ items) : item = gone ∨ item ∈ items.set place new := by
  obtain ⟨_, erased, replaced⟩ := split_place items place gone there
  rcases mem_erase_or there member with same | other
  · exact .inl same
  rw [erased] at other
  rw [replaced]
  rcases mem_append.mp other with before | after
  · exact .inr (mem_append_left _ before)
  · exact .inr (mem_append_right _ (mem_cons_of_mem _ after))

theorem count_set {old : Item} (new : Item) (p : Item → Bool)
    (there : items[place]? = some old) :
    (items.set place new).countP p + (if p old then 1 else 0) = items.countP p + if p new then 1 else 0 := by
  obtain ⟨whole, _, replaced⟩ := split_place items place old there
  have before : items.countP p = (items.take place).countP p +
      ((items.drop (place + 1)).countP p + if p old then 1 else 0) := by
    conv => lhs; rw [whole]
    rw [countP_append, countP_cons]
  rw [replaced, countP_append, countP_cons, before]
  omega

theorem unique_place (p : Item → Bool) (one : items.countP p = 1) :
    ∃ (place : Nat) (item : Item), items[place]? = some item ∧ p item = true ∧
      ∀ (other : Nat) (found : Item), items[other]? = some found → p found = true → other = place := by
  induction items with
  | nil => cases one
  | cons first rest ih =>
    rw [countP_cons] at one
    by_cases holds : p first = true
    · rw [if_pos holds] at one
      refine ⟨0, first, rfl, holds, fun other found there also => ?_⟩
      cases other with
      | zero => rfl
      | succ =>
        have none_later : rest.countP p = 0 := by omega
        exact absurd also (countP_eq_zero.mp none_later found (mem_of_getElem? there))
    · rw [if_neg holds] at one
      obtain ⟨place, item, there, has, only⟩ := ih one
      refine ⟨place + 1, item, there, has, fun other found held also => ?_⟩
      cases other with
      | zero =>
        cases held
        exact absurd also holds
      | succ later => rw [only later found held also]

theorem different_of_distinct {Item Id : Type} {items : List Item} {id : Item → Id} (distinct : (items.map id).Nodup)
    (first second : Nat) (left right : Item) (here : items[first]? = some left) (there : items[second]? = some right)
    (different : first ≠ second) : id left ≠ id right := by
  intro same
  have mapped : (items.map id)[first]? = (items.map id)[second]? := by
    rw [getElem?_map, getElem?_map, here, there, map_some, map_some, same]
  obtain ⟨inside, _⟩ := List.getElem?_eq_some_iff.mp here
  exact different ((getElem?_inj (by simpa using inside) distinct).mp mapped)

theorem pair_places {first second : Item} {items : List Item} (pair : [first, second].Sublist items) :
    ∃ (before after : Nat), before < after ∧ items[before]? = some first ∧ items[after]? = some second := by
  induction items with
  | nil => cases pair
  | cons _ _ ih =>
    cases pair with
    | cons _ later =>
      obtain ⟨before, after, order, one, two⟩ := ih later
      exact ⟨before + 1, after + 1, Nat.succ_lt_succ order, one, two⟩
    | cons_cons _ single =>
      obtain ⟨after, there⟩ := mem_iff_getElem?.mp (singleton_sublist.mp single)
      exact ⟨0, after + 1, Nat.succ_pos after, rfl, there⟩

theorem sum_set {old : Item} (new : Item) (weight : Item → Nat)
    (there : items[place]? = some old) :
    ((items.set place new).map weight).sum + weight old = (items.map weight).sum + weight new := by
  obtain ⟨whole, _, replaced⟩ := split_place items place old there
  have before : (items.map weight).sum =
      ((items.take place).map weight).sum + (weight old + ((items.drop (place + 1)).map weight).sum) := by
    rw [← sum_cons, ← map_cons, ← sum_append, ← map_append, ← whole]
  rw [before, replaced, map_append, sum_append, map_cons, sum_cons]
  omega

theorem sum_modify (change : Item → Item) (weight : Item → Nat)
    (more : Nat) (bounded : ∀ item, weight (change item) ≤ weight item + more) :
    ((items.modify place change).map weight).sum ≤ (items.map weight).sum + more := by
  induction items generalizing place with
  | nil => simp
  | cons item _ ih =>
    cases place with
    | zero =>
      have first := bounded item
      simp only [modify_zero_cons, map_cons, sum_cons]
      omega
    | succ place =>
      have later := ih place
      simp only [modify_succ_cons, map_cons, sum_cons]
      omega

end Library
