import PondSocket.Js.Types

namespace PondSocket.Js

open Library OrderedMap

-- The observer set holds closures, which are equal only to themselves: each
-- subscription gets an id that the subject has not used before.
structure Subject (Observer : Type) where
  observers : OrderedMap Nat Observer
  nextId : Nat
  isClosed : Bool
  fresh : ∀ id, observers.has id = true → id < nextId

variable {id : Nat}

namespace Subject

variable {Observer : Type}

variable (subject : Subject Observer)

def new : Subject Observer := ⟨OrderedMap.empty, 0, false, by simp⟩

def attach (subject : Subject Observer) (observer : Observer) : Subject Observer :=
  ⟨subject.observers.set subject.nextId observer, subject.nextId + 1, subject.isClosed, by
    intro id member
    rcases OrderedMap.has_set.mp member with rfl | old
    · exact Nat.lt_succ_self _
    · exact Nat.lt_succ_of_lt (subject.fresh id old)⟩

def subscribe (subject : Subject Observer) (observer : Observer) : Except Thrown (Subject Observer × Nat) :=
  if subject.isClosed then .error (.error "Cannot subscribe to a closed subject")
  else .ok (subject.attach observer, subject.nextId)

def unsubscribe (subject : Subject Observer) (id : Nat) : Subject Observer :=
  ⟨subject.observers.delete id, subject.nextId, subject.isClosed, fun other member =>
    subject.fresh other (OrderedMap.has_delete.mp member).2⟩

def close (subject : Subject Observer) : Subject Observer :=
  ⟨OrderedMap.empty, subject.nextId, true, by simp⟩

@[simp] theorem close_observers : subject.close.observers = OrderedMap.empty := rfl

@[simp] theorem close_closed : subject.close.isClosed = true := rfl

@[simp] theorem unsubscribe_closed (id : Nat) :
    (subject.unsubscribe id).isClosed = subject.isClosed := rfl

theorem unsubscribe_get {other : Nat} :
    (subject.unsubscribe id).observers.get? other = if other = id then none else subject.observers.get? other :=
  get_delete subject.observers id other

@[simp] theorem attach_closed (observer : Observer) :
    (subject.attach observer).isClosed = subject.isClosed := rfl

theorem attach_get {observer : Observer} :
    (subject.attach observer).observers.get? id =
      if id = subject.nextId then some observer else subject.observers.get? id :=
  get_set subject.observers subject.nextId id observer

theorem next_absent : subject.observers.get? subject.nextId = none := by
  rw [← has_false_iff, Bool.eq_false_iff]
  intro present
  exact Nat.lt_irrefl _ (subject.fresh _ present)

end Subject

-- A BehaviorSubject that has had a value from the start.
structure BehaviorSubject (T Observer : Type) where
  lastMessage : T
  subject : Subject Observer

namespace BehaviorSubject

variable {T Observer : Type}

variable (state : BehaviorSubject T Observer)

def new (initialValue : T) : BehaviorSubject T Observer := ⟨initialValue, .new⟩

def value (state : BehaviorSubject T Observer) : T := state.lastMessage

def unsubscribe (state : BehaviorSubject T Observer) (id : Nat) : BehaviorSubject T Observer :=
  { state with subject := state.subject.unsubscribe id }

-- A subscription that may not have been made.
def release (state : BehaviorSubject T Observer) (subscription : Option Nat) : BehaviorSubject T Observer :=
  match subscription with
  | none => state
  | some id => state.unsubscribe id

def attach (state : BehaviorSubject T Observer) (observer : Observer) : BehaviorSubject T Observer :=
  { state with subject := state.subject.attach observer }

def hold (state : BehaviorSubject T Observer) (message : T) : BehaviorSubject T Observer :=
  { state with lastMessage := message }

def observer? (state : BehaviorSubject T Observer) (id : Nat) : Option Observer := state.subject.observers.get? id

def ids (state : BehaviorSubject T Observer) : List Nat := state.subject.observers.keys

theorem unsubscribe_observer (id other : Nat) :
    (state.unsubscribe id).observer? other = if other = id then none else state.observer? other :=
  Subject.unsubscribe_get state.subject

theorem release_value (subscription : Option Nat) :
    (state.release subscription).value = state.value := by
  cases subscription <;> rfl

theorem release_observer (subscription : Option Nat) (id : Nat) :
    (state.release subscription).observer? id = if subscription = some id then none else state.observer? id := by
  cases subscription with
  | none => rfl
  | some =>
    rw [release, unsubscribe_observer]
    simp [eq_comm]

theorem attach_observer (observer : Observer) (id : Nat) :
    (state.attach observer).observer? id = if id = state.subject.nextId then some observer else state.observer? id :=
  Subject.attach_get state.subject

theorem next_unused : state.observer? state.subject.nextId = none :=
  state.subject.next_absent

variable {handle : Option Nat} {kind : Observer}

theorem replaced_observer (named : ∀ id, state.observer? id = some kind ↔ handle = some id) :
    ((state.release handle).attach kind).observer? id = some kind ↔
      some (state.release handle).subject.nextId = some id := by
  rw [attach_observer, release_observer]
  by_cases fresh : id = (state.release handle).subject.nextId
  · simp [fresh]
  rw [if_neg fresh, Option.some.injEq]
  have other : ¬ (state.release handle).subject.nextId = id := fun same => fresh same.symm
  by_cases held : handle = some id
  · rw [if_pos held]
    simp [other]
  · rw [if_neg held, named]
    simp [other, held]

theorem replaced_other {other : Observer} (named : ∀ id, state.observer? id = some kind ↔ handle = some id)
    (different : other ≠ kind) :
    ((state.release handle).attach kind).observer? id = some other ↔ state.observer? id = some other := by
  rw [attach_observer]
  have kept : (state.release handle).observer? id = some other ↔ state.observer? id = some other := by
    rw [release_observer]
    by_cases held : handle = some id
    · simp [(named id).mpr held, different.symm]
    · simp [held]
  by_cases fresh : id = (state.release handle).subject.nextId
  · rw [← kept, if_pos fresh, fresh, next_unused]
    simp [different.symm]
  · rw [if_neg fresh, kept]

theorem mem_ids (id : Nat) :
    id ∈ state.ids ↔ ∃ observer, state.observer? id = some observer := by
  rw [ids, mem_keys, has_iff]
  rfl

theorem ids_distinct : state.ids.Nodup := state.subject.observers.distinct

end BehaviorSubject

end PondSocket.Js
