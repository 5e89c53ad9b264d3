import Mathlib.Data.List.Basic

namespace Library.BoundedQueue

open List

variable {Item : Type}

-- A queue of at most limit items, which makes room by dropping its oldest ones.
def push (limit : Nat) (items : List Item) (item : Item) : List Item :=
  (items ++ [item]).drop (items.length + 1 - limit)

theorem push_reverse (limit : Nat) (items : List Item) (item : Item) :
    (push limit items item).reverse = (item :: items.reverse).take limit := by
  simp only [push, reverse_drop, reverse_append, reverse_cons, reverse_nil, nil_append,
    singleton_append, length_append, length_singleton]
  by_cases room : limit ≤ items.length + 1
  · rw [Nat.sub_sub_self room]
  have short : items.length + 1 ≤ limit := Nat.le_of_not_le room
  rw [Nat.sub_eq_zero_of_le short, Nat.sub_zero, take_of_length_le (by simp), take_of_length_le (by simpa using short)]

theorem push_length {limit : Nat} {items : List Item} {item : Item} : (push limit items item).length ≤ limit := by
  rw [← length_reverse, push_reverse]
  exact length_take_le limit (item :: items.reverse)

theorem push_fits {limit : Nat} {items : List Item} {item : Item} (room : items.length < limit) :
    push limit items item = items ++ [item] := by
  simp [push, Nat.sub_eq_zero_of_le (Nat.succ_le_of_lt room)]

structure Waits (marked : Item → Prop) (limit : Nat) (items : List Item) (behind : Option Nat) : Prop where
  fits : items.length ≤ limit
  placed : ∀ place item, items.reverse[place]? = some item → (marked item ↔ behind = some place)
  kept : ∀ count, behind = some count → count < limit → count < items.length

section

variable {marked : Item → Prop} {limit : Nat} {items : List Item} {item : Item} {behind : Option Nat}

theorem waits_unmarked (fits : items.length ≤ limit) (unmarked : ∀ item ∈ items, ¬ marked item) :
    Waits marked limit items none := by
  refine ⟨fits, ?_, fun count none _ => nomatch none⟩
  intro place item there
  have member := mem_reverse.mp (mem_of_getElem? there)
  exact ⟨fun mark => absurd mark (unmarked item member), fun none => nomatch none⟩

theorem waits_push {next : Option Nat} (waits : Waits marked limit items behind)
    (first : marked item ↔ next = some 0)
    (later : ∀ place, behind = some place ↔ next = some (place + 1)) :
    Waits marked limit (push limit items item) next := by
  refine ⟨push_length, ?_, ?_⟩
  · intro place found there
    rw [push_reverse] at there
    have inside : (item :: items.reverse)[place]? = some found := by
      rw [getElem?_take] at there
      split at there
      · exact there
      · cases there
    cases place with
    | zero =>
      cases inside
      exact first
    | succ place => exact (waits.placed place found inside).trans (later place)
  · intro count same room
    rw [← length_reverse, push_reverse, length_take, length_cons, length_reverse]
    cases count with
    | zero => exact Nat.lt_min.mpr ⟨room, Nat.succ_pos _⟩
    | succ count =>
      have held := waits.kept count ((later count).mpr same) (Nat.lt_of_succ_lt room)
      exact Nat.lt_min.mpr ⟨room, Nat.succ_lt_succ held⟩

theorem waits_push_marked (waits : Waits marked limit items none) (mark : marked item) :
    Waits marked limit (push limit items item) (some 0) := by
  apply waits_push waits
  · exact ⟨fun _ => rfl, fun _ => mark⟩
  · intro place
    exact ⟨fun none => (nomatch none), fun zero => nomatch zero⟩

theorem waits_push_other (waits : Waits marked limit items behind) (other : ¬ marked item) :
    Waits marked limit (push limit items item) (behind.map (· + 1)) := by
  apply waits_push waits
  · cases behind with
    | none => exact ⟨fun mark => absurd mark other, fun none => nomatch none⟩
    | some => exact ⟨fun mark => absurd mark other, fun zero => nomatch zero⟩
  intro place
  cases behind with
  | none => exact ⟨fun none => (nomatch none), fun none => nomatch none⟩
  | some => simp

theorem marked_held_iff (waits : Waits marked limit items behind) :
    (∃ item ∈ items, marked item) ↔ ∃ count, behind = some count ∧ count < limit := by
  constructor
  · intro held
    obtain ⟨item, member, mark⟩ := held
    obtain ⟨place, there⟩ := mem_iff_getElem?.mp (mem_reverse.mpr member)
    obtain ⟨inside, _⟩ := List.getElem?_eq_some_iff.mp there
    rw [length_reverse] at inside
    exact ⟨place, (waits.placed place item there).mp mark, Nat.lt_of_lt_of_le inside waits.fits⟩
  · intro held
    obtain ⟨count, same, room⟩ := held
    have inside : count < items.reverse.length := by
      rw [length_reverse]
      exact waits.kept count same room
    have there := getElem?_eq_getElem inside
    exact ⟨_, mem_reverse.mp (mem_of_getElem? there), (waits.placed count _ there).mpr same⟩

end

end Library.BoundedQueue
