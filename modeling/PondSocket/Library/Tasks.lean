import PondSocket.Library.Run

namespace Library

open List Option

-- Tasks that take turns: a task is the sections that it still has to do. A section
-- changes the state and says what its task does next, before the rest.
section

variable {S M : Type}

variable (tasks : List (List M))

def Pending (tasks : List (List M)) (piece : M) : Prop := ∃ task ∈ tasks, piece ∈ task

def Idle (tasks : List (List M)) : Prop := ∀ task ∈ tasks, task = []

instance decidableIdle (tasks : List (List M)) : Decidable (Idle tasks) :=
  decidable_of_iff (tasks.all List.isEmpty = true) (by simp [Idle])

def nextPiece (tasks : List (List M)) (place : Nat) : Option M := (tasks[place]?.getD []).head?

def others (tasks : List (List M)) (place : Nat) : List (List M) := tasks.set place (tasks[place]?.getD []).tail

def resume (act : S → M → S × List M) (state : S) (tasks : List (List M)) (place : Nat) : S × List (List M) :=
  match nextPiece tasks place with
  | none => (state, tasks)
  | some piece =>
    ((act state piece).1, tasks.set place ((act state piece).2 ++ (tasks[place]?.getD []).tail))

variable {place : Nat} {piece : M}

theorem next_piece_some (next : nextPiece tasks place = some piece) : ∃ rest, tasks[place]? = some (piece :: rest) := by
  cases found : tasks[place]? with
  | none => simp [nextPiece, found] at next
  | some task =>
    cases task with
    | nil => simp [nextPiece, found] at next
    | cons _ rest =>
      simp only [nextPiece, found, getD_some, head?_cons, some.injEq] at next
      exact ⟨rest, by rw [next]⟩

theorem pending_concat {task : List M} : Pending (tasks ++ [task]) piece ↔ Pending tasks piece ∨ piece ∈ task := by
  simp [Pending, exists_or]

theorem pending_set {task : List M} (inside : place < tasks.length) (piece : M) :
    Pending (tasks.set place task) piece ↔ Pending (tasks.eraseIdx place) piece ∨ piece ∈ task := by
  have split : tasks.set place task = tasks.take place ++ task :: tasks.drop (place + 1) :=
    set_eq_take_append_cons_drop.trans (if_pos inside)
  simp only [Pending, split, eraseIdx_eq_take_drop_succ, mem_append, mem_cons]
  constructor
  · intro held
    obtain ⟨held, standing, member⟩ := held
    rcases standing with before | rfl | after
    · exact Or.inl ⟨held, Or.inl before, member⟩
    · exact Or.inr member
    · exact Or.inl ⟨held, Or.inr after, member⟩
  · intro held
    rcases held with ⟨held, before | after, member⟩ | member
    · exact ⟨held, Or.inl before, member⟩
    · exact ⟨held, Or.inr (Or.inr after), member⟩
    · exact ⟨task, Or.inr (Or.inl rfl), member⟩

theorem pending_before (place : Nat) (piece other : M) (next : nextPiece tasks place = some piece) :
    Pending tasks other ↔ other = piece ∨ Pending (others tasks place) other := by
  obtain ⟨rest, found⟩ := next_piece_some tasks next
  have inside : place < tasks.length := (List.getElem?_eq_some_iff.mp found).1
  have same : tasks.set place (piece :: rest) = tasks := by
    rw [← (List.getElem?_eq_some_iff.mp found).2]
    exact set_getElem_self inside
  rw [others, found, getD_some, tail_cons, pending_set tasks inside]
  rw [← same, pending_set tasks inside, same, mem_cons]
  tauto

variable {act : S → M → S × List M} {state : S}

theorem pending_after {tasks : List (List M)} {other : M} (next : nextPiece tasks place = some piece) :
    Pending (resume act state tasks place).2 other ↔
      other ∈ (act state piece).2 ∨ Pending (others tasks place) other := by
  obtain ⟨rest, found⟩ := next_piece_some tasks next
  have inside : place < tasks.length := (List.getElem?_eq_some_iff.mp found).1
  simp only [resume, next, others, found, getD_some, tail_cons]
  rw [pending_set _ inside, pending_set _ inside, mem_append]
  tauto

theorem resume_state {tasks : List (List M)} (next : nextPiece tasks place = some piece) :
    (resume act state tasks place).1 = (act state piece).1 := by
  rw [resume, next]

theorem resume_idle {tasks : List (List M)} (next : nextPiece tasks place = none) :
    resume act state tasks place = (state, tasks) := by
  rw [resume, next]

theorem idle_iff : Idle tasks ↔ ∀ piece, ¬ Pending tasks piece := by
  constructor
  · intro idle piece held
    obtain ⟨task, member, inside⟩ := held
    rw [idle task member] at inside
    exact not_mem_nil inside
  · intro none task member
    cases task with
    | nil => rfl
    | cons piece rest => exact absurd ⟨piece :: rest, member, mem_cons_self⟩ (none piece)

end

end Library
