import Mathlib.Algebra.GroupWithZero.Nat
import Mathlib.Data.List.Perm.Basic
import PondSocket.Library.Run

namespace PondSocket.Js.Middleware

open List

structure HttpError where
  statusCode : Nat
  message : String
deriving DecidableEq

-- What a middleware or `final` throws: an HttpError, another Error, or any other value.
inductive Thrown
  | httpError (error : HttpError)
  | error (message : String)
  | other
deriving DecidableEq

def handleError : Thrown → HttpError
  | .httpError error => error
  | .error message => ⟨500, message⟩
  | .other => ⟨500, "An error occurred while processing the request"⟩

-- `final` may throw, and may remember the calls made before.
abbrev Final := List (Option HttpError) → Option HttpError → Option Thrown

-- The body of a middleware as far as the stack sees it: it ends without calling `next`, calls it and ends
-- as it decides from what `next` threw, or hands it to a callback of its own and ends.
inductive Body
  | ends (failure : Option Thrown)
  | calls (err : Option HttpError) (leaves : Option Thrown → Option Thrown)
  | defers (err : Option HttpError) (failure : Option Thrown)

-- An async function runs at once up to its first await, so one that awaits nothing before its body is `promised`.
inductive Kind
  | plain
  | promised
  | awaiting
deriving DecidableEq

structure MiddlewareFunction where
  kind : Kind
  body : Body

-- What the event loop still has to run: the rest of an async function, or the handler of a rejection.
inductive Pending
  | resumes (body : Body)
  | rejected (error : Thrown)

structure Run where
  index : Nat
  entered : List Nat
  finals : List (Option HttpError)
  pending : List Pending

namespace Run

def enter (s : Run) : Run := { s with index := s.index + 1, entered := s.entered ++ [s.index] }

def push (s : Run) (item : Pending) : Run := { s with pending := s.pending ++ [item] }

end Run

section

variable (final : Final) (stack : List MiddlewareFunction)

def callFinal (error : Option HttpError) (s : Run) : Option Thrown × Run :=
  (final s.finals error, { s with finals := s.finals ++ [error] })

-- The callback that got `next` throws into the event loop, so it is a body that never fails.
def Body.perform (next : Option HttpError → Run → Option Thrown × Run) : Body → Run → Option Thrown × Run
  | .ends failure, s => (failure, s)
  | .calls err leaves, s => (leaves (next err s).1, (next err s).2)
  | .defers err failure, s => (failure, s.push (.resumes (.calls err fun _ => none)))

def settle (kind : Kind) (result : Option Thrown × Run) : Option Thrown × Run :=
  match result.1 with
  | none => (none, result.2)
  | some error =>
    if kind = .plain then callFinal final (some (handleError error)) result.2
    else (none, result.2.push (.rejected error))

-- `next` where `rest` is the stack from `index` on; the first component is what it throws.
def nextFrom : List MiddlewareFunction → Option HttpError → Run → Option Thrown × Run
  | _, some err, s => callFinal final (some (handleError (.httpError err))) s
  | [], none, s => callFinal final none s
  | middleware :: rest, none, s =>
    if middleware.kind = .awaiting then (none, s.enter.push (.resumes middleware.body))
    else settle final middleware.kind (middleware.body.perform (nextFrom rest) s.enter)

def next (err : Option HttpError) (s : Run) : Option Thrown × Run := nextFrom final (stack.drop s.index) err s

def start : Run := (next final stack none ⟨0, [], [], []⟩).2

def serve (s : Run) : Pending → Run
  | .resumes body => (settle final .promised (body.perform (next final stack) s)).2
  | .rejected error => (callFinal final (some (handleError error)) s).2

def turn (s : Run) (k : Nat) : Run :=
  match s.pending[k]? with
  | none => s
  | some item => serve final stack { s with pending := s.pending.eraseIdx k } item

end

-- What a call of `next` comes to as long as `final` was not called: whether `final` gets called by it or by
-- what it leaves waiting, and what it throws.
structure Outlook where
  answers : Bool
  thrown : Option Thrown

namespace Body

def call : Body → Option (Option HttpError)
  | .ends _ => none
  | .calls err _ => some err
  | .defers err _ => some err

def failure (ahead : Option HttpError → Outlook) : Body → Option Thrown
  | .ends failure => failure
  | .calls err leaves => leaves (ahead err).thrown
  | .defers _ failure => failure

def reaches (ahead : Option HttpError → Outlook) (body : Body) : Bool :=
  match body.call with
  | none => false
  | some err => (ahead err).answers

def answers (ahead : Option HttpError → Outlook) (body : Body) : Bool :=
  body.reaches ahead || (body.failure ahead).isSome

-- The body does not fail once its call of `next` answers, nor does anyone behind it.
def alone (ahead : Option HttpError → Outlook) (behind : Option HttpError → Bool) (body : Body) : Bool :=
  match body.call with
  | none => true
  | some err => behind err && (!(ahead err).answers || (body.failure ahead).isNone)

end Body

section

variable (final : Final)

def outlook : List MiddlewareFunction → Option HttpError → Outlook
  | _, some err => ⟨true, final [] (some err)⟩
  | [], none => ⟨true, final [] none⟩
  | middleware :: rest, none =>
    let failure := middleware.body.failure (outlook rest)
    ⟨middleware.body.answers (outlook rest),
      if middleware.kind = .plain then failure.bind fun error => final [] (some (handleError error)) else none⟩

-- No middleware fails after it called `next` on a chain that answers.
def failsAlone : List MiddlewareFunction → Option HttpError → Bool
  | _, some _ => true
  | [], none => true
  | middleware :: rest, none => middleware.body.alone (outlook final rest) (failsAlone rest)

end

def Pending.body : Pending → Body
  | .resumes body => body
  | .rejected error => .ends (some error)

def Pending.calls (item : Pending) : Bool := item.body.call.isSome

section

variable (final : Final) (stack : List MiddlewareFunction)

def due (rest : List MiddlewareFunction) (body : Body) : Nat := (body.answers (outlook final rest)).toNat

-- `extra` calls of `final` are still to come from code that is running, which calls `next` `token` times more.
structure Owing (s : Run) (extra token : Nat) : Prop where
  once : s.finals.length + (s.pending.map fun item => due final (stack.drop s.index) item.body).sum + extra ≤ 1
  callers : s.pending.countP Pending.calls + token ≤ 1
  alone : ∀ item ∈ s.pending,
    item.body.alone (outlook final (stack.drop s.index)) (failsAlone final (stack.drop s.index)) = true
  entered : s.entered = List.range s.index
  within : s.index ≤ stack.length

end

section

variable {final : Final} {stack : List MiddlewareFunction}

variable {s : Run}

theorem idle_body {body : Body} (idle : body.call = none) (ahead after : Option HttpError → Outlook)
    (alone : Option HttpError → Bool) :
    body.answers ahead = body.answers after ∧ body.alone ahead alone = true := by
  cases body with
  | ends => exact ⟨rfl, rfl⟩
  | calls | defers => cases idle

theorem owing_enter (extra : Nat) (within : s.index < stack.length)
    (owing : Owing final stack s extra 1) : Owing final stack s.enter extra 1 := by
  have idle : ∀ item ∈ s.pending, item.body.call = none := by
    intro item member
    have none_calls : s.pending.countP Pending.calls = 0 := by
      have := owing.callers
      omega
    simpa [Pending.calls] using countP_eq_zero.mp none_calls item member
  have same : (s.pending.map fun item => due final (stack.drop (s.index + 1)) item.body) =
      s.pending.map fun item => due final (stack.drop s.index) item.body := by
    apply map_congr_left
    intro item member
    rw [due, due, (idle_body (idle item member) _ _ fun _ => true).1]
  refine ⟨?_, owing.callers, ?_, ?_, within⟩
  · simp only [Run.enter, same]
    exact owing.once
  · intro item member
    exact (idle_body (idle item member) _ (outlook final stack) _).2
  · simp [Run.enter, owing.entered, range_succ]

variable {extra token : Nat}

theorem owing_push {item : Pending}
    (owing : Owing final stack s (due final (stack.drop s.index) item.body + extra) (item.calls.toNat + token))
    (alone : item.body.alone (outlook final (stack.drop s.index)) (failsAlone final (stack.drop s.index)) = true) :
    Owing final stack (s.push item) extra token := by
  have once := owing.once
  have callers := owing.callers
  refine ⟨?_, ?_, ?_, owing.entered, owing.within⟩
  · simp only [Run.push, map_append, map_cons, map_nil, sum_append, sum_cons, sum_nil]
    omega
  · simp only [Run.push, countP_append, countP_singleton]
    cases calls : item.calls <;> simp only [calls, Bool.toNat_true, Bool.toNat_false] at callers <;> simp <;> omega
  · intro other member
    rcases mem_append.mp member with old | new
    · exact owing.alone other old
    · rw [mem_singleton.mp new]
      exact alone

theorem owing_final {error : Option HttpError} (owing : Owing final stack s (1 + extra) token) :
    (callFinal final error s).1 = final [] error ∧ Owing final stack (callFinal final error s).2 extra token := by
  have once := owing.once
  have first : s.finals = [] := eq_nil_of_length_eq_zero (by omega)
  constructor
  · simp [callFinal, first]
  · refine ⟨?_, owing.callers, owing.alone, owing.entered, owing.within⟩
    simp only [callFinal, length_append, length_singleton]
    omega

theorem Owing.weaken {s : Run} {fewer : Nat} (owing : Owing final stack s extra token) (le : fewer ≤ token) :
    Owing final stack s extra fewer :=
  ⟨owing.once, Nat.le_trans (Nat.add_le_add_left le _) owing.callers, owing.alone, owing.entered, owing.within⟩

theorem settle_keeps (kind : Kind) (failure : Option Thrown) (s : Run) (extra : Nat)
    (owing : Owing final stack s (failure.isSome.toNat + extra) 0) :
    (settle final kind (failure, s)).1 =
        (if kind = .plain then failure.bind fun error => final [] (some (handleError error)) else none) ∧
      Owing final stack (settle final kind (failure, s)).2 extra 0 := by
  cases failure with
  | none => exact ⟨by simp [settle], by simpa [settle] using owing⟩
  | some =>
    by_cases plain : kind = .plain
    · simp only [settle, plain, if_true]
      exact owing_final owing
    · simp only [settle, plain, if_false]
      exact ⟨trivial, owing_push owing rfl⟩

variable {rest : List MiddlewareFunction}

theorem due_parts {body : Body} (alone : body.alone (outlook final rest) (failsAlone final rest) = true) :
    due final rest body =
      (body.reaches (outlook final rest)).toNat + (body.failure (outlook final rest)).isSome.toNat := by
  simp only [due, Body.answers]
  cases reaches : body.reaches (outlook final rest) with
  | false => simp
  | true =>
    cases calls : body.call with
    | none => simp [Body.reaches, calls] at reaches
    | some =>
      simp only [Body.reaches, calls] at reaches
      simp only [Body.alone, calls, reaches, Bool.and_eq_true, Bool.not_true, Bool.false_or] at alone
      rw [Option.isNone_iff_eq_none.mp alone.2]
      rfl

-- `call` is `next` for the chain `rest`, already known to keep the account.
def Keeps (final : Final) (stack rest : List MiddlewareFunction)
    (call : Option HttpError → Run → Option Thrown × Run) : Prop :=
  ∀ err s extra, stack.drop s.index = rest → failsAlone final rest err = true →
    Owing final stack s ((outlook final rest err).answers.toNat + extra) 1 →
    (call err s).1 = (outlook final rest err).thrown ∧ Owing final stack (call err s).2 extra 0

theorem perform_keeps (rest : List MiddlewareFunction) (call : Option HttpError → Run → Option Thrown × Run)
    (keeps : Keeps final stack rest call) (body : Body) (s : Run) (extra : Nat) (place : stack.drop s.index = rest)
    (alone : body.alone (outlook final rest) (failsAlone final rest) = true)
    (owing : Owing final stack s (due final rest body + extra) body.call.isSome.toNat) :
    (body.perform call s).1 = body.failure (outlook final rest) ∧
      Owing final stack (body.perform call s).2 ((body.failure (outlook final rest)).isSome.toNat + extra) 0 := by
  rw [due_parts alone] at owing
  cases body with
  | ends => exact ⟨rfl, by simpa [Body.reaches, Body.call, Body.perform] using owing⟩
  | calls err =>
    have behind : failsAlone final rest err = true := by
      simp only [Body.alone, Body.call, Bool.and_eq_true] at alone
      exact alone.1
    obtain ⟨thrown, after⟩ := keeps err s _ place behind (by rw [Nat.add_assoc] at owing; exact owing)
    simp only [Body.perform, Body.failure, thrown]
    exact ⟨trivial, after⟩
  | defers err failure =>
    have behind : failsAlone final rest err = true := by
      simp only [Body.alone, Body.call, Bool.and_eq_true] at alone
      exact alone.1
    refine ⟨rfl, owing_push ?_ ?_⟩
    · rw [place]
      rw [Nat.add_assoc] at owing
      simpa [due, Body.answers, Body.reaches, Body.call, Body.failure, Pending.body, Pending.calls] using owing
    · rw [place]
      simpa [Body.alone, Body.call, Body.failure, Pending.body] using behind

theorem next_from_keeps : Keeps final stack rest (nextFrom final rest) := by
  induction rest with
  | nil =>
    intro err s extra place alone owing
    cases err with
    | none | some => exact owing_final (owing.weaken (Nat.zero_le 1))
  | cons middleware rest ih =>
    intro err s extra place alone owing
    cases err with
    | some => exact owing_final (owing.weaken (Nat.zero_le 1))
    | none =>
      have within : s.index < stack.length := by
        by_contra past
        rw [drop_eq_nil_of_le (by omega)] at place
        cases place
      have entered := owing_enter _ within owing
      have behind : stack.drop s.enter.index = rest := by
        rw [Run.enter, ← tail_drop, place]
        rfl
      by_cases waits : middleware.kind = .awaiting
      · simp only [nextFrom, waits, if_true, outlook]
        refine ⟨rfl, owing_push ?_ ?_⟩
        · rw [behind]
          exact entered.weaken (Bool.toNat_le _)
        · rw [behind]
          exact alone
      simp only [nextFrom, waits, if_false, outlook]
      obtain ⟨failed, after⟩ := perform_keeps rest _ ih middleware.body s.enter extra behind alone
        (entered.weaken (Bool.toNat_le _))
      rw [← failed] at after
      rw [← failed]
      exact settle_keeps middleware.kind _ _ extra after

theorem next_keeps (rest : List MiddlewareFunction) : Keeps final stack rest (next final stack) := by
  intro err s extra place alone owing
  rw [next, place]
  exact next_from_keeps err s extra place alone owing

theorem owing_take {k : Nat} {item : Pending} (found : s.pending[k]? = some item)
    (owing : Owing final stack s 0 0) :
    Owing final stack { s with pending := s.pending.eraseIdx k } (due final (stack.drop s.index) item.body)
        item.calls.toNat ∧
      item.body.alone (outlook final (stack.drop s.index)) (failsAlone final (stack.drop s.index)) = true := by
  obtain ⟨inside, here⟩ := List.getElem?_eq_some_iff.mp found
  have taken := getElem_cons_eraseIdx_perm inside
  rw [here] at taken
  have once := owing.once
  have callers := owing.callers
  rw [← (taken.map _).sum_nat, map_cons, sum_cons] at once
  rw [← taken.countP_eq, countP_cons] at callers
  refine ⟨⟨?_, ?_, ?_, owing.entered, owing.within⟩, owing.alone item (mem_of_getElem? found)⟩
  · simp only
    omega
  · cases calls : item.calls <;> simp only [calls] at callers <;> simp at callers ⊢ <;> omega
  · intro other member
    exact owing.alone other (mem_of_mem_eraseIdx member)

theorem turn_keeps (k : Nat) (owing : Owing final stack s 0 0) :
    Owing final stack (turn final stack s k) 0 0 := by
  unfold turn
  cases found : s.pending[k]? with
  | none => exact owing
  | some item =>
    obtain ⟨taken, alone⟩ := owing_take found owing
    cases item with
    | resumes body =>
      obtain ⟨failed, after⟩ := perform_keeps _ (next final stack) (next_keeps _) body
        { s with pending := s.pending.eraseIdx k } 0 rfl alone taken
      rw [← failed] at after
      exact (settle_keeps .promised _ _ 0 after).2
    | rejected => exact (owing_final taken).2

-- Unless somebody fails after what he called `next` on answers, `final` is called at most once,
-- and the middlewares are entered one by one in the order of the stack, whatever the event loop does first.
theorem final_called_once (final : Final) (stack : List MiddlewareFunction)
    (alone : failsAlone final stack none = true) (turns : List Nat) :
    let s := Library.run (turn final stack) (start final stack) turns
    s.finals.length ≤ 1 ∧ s.entered = List.range s.index ∧ s.index ≤ stack.length := by
  have initial : Owing final stack ⟨0, [], [], []⟩ ((outlook final stack none).answers.toNat + 0) 1 :=
    ⟨by simpa using Bool.toNat_le _, by simp, by simp, rfl, Nat.zero_le _⟩
  have started : Owing final stack (start final stack) 0 0 := (next_from_keeps none _ 0 rfl alone initial).2
  have owing := Library.run_keeps (turn final stack) (fun _ _ => True) (fun s => Owing final stack s 0 0)
    (fun s k owing _ => turn_keeps k owing) _ turns started
    (Library.follows_all _ _ _ _ fun _ _ => trivial)
  have once := owing.once
  exact ⟨by omega, owing.entered, owing.within⟩

def carefulStack : List MiddlewareFunction :=
  [⟨.plain, .calls none fun _ => none⟩, ⟨.awaiting, .calls none id⟩, ⟨.plain, .ends (some .other)⟩]

theorem careful_called_once :
    let s := Library.run (turn (fun _ _ => none) carefulStack) (start (fun _ _ => none) carefulStack) [0]
    s.finals.length ≤ 1 ∧ s.entered = List.range s.index ∧ s.index ≤ carefulStack.length :=
  final_called_once (fun _ _ => none) carefulStack (by rfl) [0]

example : (Library.run (turn (fun _ _ => none) carefulStack) (start (fun _ _ => none) carefulStack) [0]).finals =
    [some (handleError .other)] := by rfl

theorem final_called_again :
    ¬ ∀ (final : Final) (stack : List MiddlewareFunction) (turns : List Nat),
      (Library.run (turn final stack) (start final stack) turns).finals.length ≤ 1 ∧
        (Library.run (turn final stack) (start final stack) turns).entered =
          List.range (Library.run (turn final stack) (start final stack) turns).index := by
  intro claim
  have once := (claim (fun _ _ => none) [⟨.plain, .calls none fun _ => some .other⟩] []).1
  have twice : (start (fun _ _ => none) [⟨.plain, .calls none fun _ => some .other⟩]).finals.length = 2 := by rfl
  change (start _ _).finals.length ≤ 1 at once
  omega

end

end PondSocket.Js.Middleware
