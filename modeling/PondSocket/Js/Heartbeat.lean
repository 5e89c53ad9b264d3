import Mathlib.Data.List.Induction
import PondSocket.Library.OrderedMap
import PondSocket.Library.Run

namespace PondSocket.Js

open Library List OrderedMap Option

-- The sockets of a server with their isAlive, undefined at first. The timer is cleared
-- by closeAsync and by an error or the closing of the HTTP server. terminated and pings
-- are logs.
structure Heartbeat where
  clients : OrderedMap Nat (Option Bool) := .empty
  timer : Bool := true
  terminated : List Nat := []
  pings : List Nat := []

inductive HeartbeatLabel where
  | connection (socket : Nat)
  | pong (socket : Nat)
  | closed (socket : Nat)
  | tick
  | clearInterval

namespace Heartbeat

def check (heartbeat : Heartbeat) (socket : Nat) : Heartbeat :=
  match heartbeat.clients.get? socket with
  | none => heartbeat
  | some isAlive =>
    if isAlive = some false then { heartbeat with terminated := heartbeat.terminated ++ [socket] }
    else
      { heartbeat with
        clients := heartbeat.clients.set socket (some false)
        pings := heartbeat.pings ++ [socket] }

def step (heartbeat : Heartbeat) : HeartbeatLabel → Heartbeat
  | .connection socket =>
    if heartbeat.clients.has socket then heartbeat
    else { heartbeat with clients := heartbeat.clients.set socket none }
  | .pong socket =>
    if heartbeat.clients.has socket then { heartbeat with clients := heartbeat.clients.set socket (some true) }
    else heartbeat
  | .closed socket => { heartbeat with clients := heartbeat.clients.delete socket }
  | .tick => if heartbeat.timer then heartbeat.clients.keys.foldl check heartbeat else heartbeat
  | .clearInterval => { heartbeat with timer := false }

-- The socket is pinged, or found unanswered, by a tick in this state.
def Watches (heartbeat : Heartbeat) (socket : Nat) : Prop :=
  heartbeat.timer = true ∧ heartbeat.clients.has socket = true

variable {heartbeat : Heartbeat} {socket : Nat}

theorem check_other {other : Nat} (apart : other ≠ socket) :
    (heartbeat.check socket).clients.get? other = heartbeat.clients.get? other ∧
      (other ∈ (heartbeat.check socket).terminated ↔ other ∈ heartbeat.terminated) := by
  rw [check]
  split
  · exact ⟨rfl, Iff.rfl⟩
  split
  · exact ⟨rfl, by simp [apart]⟩
  · exact ⟨get_set_other apart, Iff.rfl⟩

theorem check_own {isAlive : Option Bool} (there : heartbeat.clients.get? socket = some isAlive) :
    (heartbeat.check socket).clients.get? socket = some (some false) ∧
      (socket ∈ (heartbeat.check socket).terminated ↔ socket ∈ heartbeat.terminated ∨ isAlive = some false) := by
  rw [check, there]
  dsimp only
  split
  · rename_i silent
    exact ⟨there.trans (congrArg some silent), by simp [silent]⟩
  · rename_i alive
    exact ⟨get_set_same, by simp [alive]⟩

theorem checks_spec (sockets : List Nat) (distinct : sockets.Nodup) (heartbeat : Heartbeat)
    (there : ∀ other ∈ sockets, heartbeat.clients.has other = true) :
    (sockets.foldl check heartbeat).clients.get? socket =
        (if socket ∈ sockets then some (some false) else heartbeat.clients.get? socket) ∧
      (socket ∈ (sockets.foldl check heartbeat).terminated ↔ socket ∈ heartbeat.terminated ∨
        socket ∈ sockets ∧ heartbeat.clients.get? socket = some (some false)) := by
  induction sockets generalizing heartbeat with
  | nil => simp
  | cons first rest ih =>
    obtain ⟨apart, distinct⟩ := nodup_cons.mp distinct
    have later : ∀ other ∈ rest, (heartbeat.check first).clients.has other = true := by
      intro other member
      have differs : other ≠ first := fun same => apart (same ▸ member)
      rw [has_iff, (check_other differs).1, ← has_iff]
      exact there other (mem_cons_of_mem _ member)
    obtain ⟨clients, terminated⟩ := ih distinct (heartbeat.check first) later
    rw [foldl_cons, clients, terminated]
    by_cases same : socket = first
    · subst same
      obtain ⟨isAlive, found⟩ := has_iff.mp (there socket mem_cons_self)
      obtain ⟨silent, ended⟩ := check_own found
      simp [apart, silent, ended, found]
    · obtain ⟨kept, ended⟩ := @check_other heartbeat _ _ same
      simp [same, kept, ended]

theorem tick_spec (heartbeat : Heartbeat) (socket : Nat) :
    (heartbeat.step .tick).clients.get? socket =
        (if heartbeat.timer ∧ heartbeat.clients.has socket then some (some false) else heartbeat.clients.get? socket) ∧
      (socket ∈ (heartbeat.step .tick).terminated ↔ socket ∈ heartbeat.terminated ∨
        heartbeat.timer = true ∧ heartbeat.clients.get? socket = some (some false)) := by
  rw [step]
  split
  · rename_i on
    obtain ⟨clients, terminated⟩ := @checks_spec socket heartbeat.clients.keys heartbeat.clients.distinct heartbeat
      fun other member => OrderedMap.mem_keys.mp member
    simp only [clients, terminated, OrderedMap.mem_keys, on, true_and]
    exact or_congr Iff.rfl (and_iff_right_of_imp fun found => has_iff.mpr ⟨_, found⟩)
  · rename_i off
    simp [off]

-- The socket neither answers nor closes.
def Silent (socket : Nat) : HeartbeatLabel → Prop
  | .pong other | .closed other => other ≠ socket
  | _ => True

-- Pinged by a tick of the labels, and neither answered nor closed since.
def Unanswered (labels : List HeartbeatLabel) (socket : Nat) : Prop :=
  ∃ before after, labels = before ++ .tick :: after ∧ (run step {} before).Watches socket ∧ ∀ label ∈ after, Silent socket label

-- The mark is the last item, or stands before it.
theorem concat_cut {Item : Type} {items before after : List Item} {last mark : Item}
    (cut : items ++ [last] = before ++ mark :: after) :
    (after = [] ∧ items = before ∧ last = mark) ∨ ∃ rest, after = rest ++ [last] ∧ items = before ++ mark :: rest := by
  rcases eq_nil_or_concat after with rfl | ⟨rest, other, rfl⟩
  · obtain ⟨same, ends⟩ := append_inj' cut rfl
    exact .inl ⟨rfl, same, (cons.inj ends).1⟩
  · rw [concat_eq_append, ← cons_append, ← append_assoc] at cut
    obtain ⟨same, ends⟩ := append_inj' cut rfl
    obtain rfl := (cons.inj ends).1
    exact .inr ⟨rest, concat_eq_append, same⟩

theorem unanswered_concat (labels : List HeartbeatLabel) (label : HeartbeatLabel) :
    Unanswered (labels ++ [label]) socket ↔
      Unanswered labels socket ∧ Silent socket label ∨ label = .tick ∧ (run step {} labels).Watches socket := by
  constructor
  · rintro ⟨before, after, cut, watched, silent⟩
    rcases concat_cut cut with ⟨rfl, rfl, rfl⟩ | ⟨rest, rfl, rfl⟩
    · exact Or.inr ⟨rfl, watched⟩
    · exact Or.inl ⟨⟨before, rest, rfl, watched, fun other member => silent other (mem_append_left _ member)⟩,
        silent _ (mem_append_right _ mem_cons_self)⟩
  · rintro (⟨⟨before, after, rfl, watched, silent⟩, last⟩ | ⟨rfl, watched⟩)
    · refine ⟨before, after ++ [label], by simp, watched, ?_⟩
      intro other member
      rcases mem_append.mp member with old | new
      · exact silent other old
      · exact mem_singleton.mp new ▸ last
    · exact ⟨labels, [], rfl, watched, by simp⟩

theorem run_concat (labels : List HeartbeatLabel) (label : HeartbeatLabel) :
    run step {} (labels ++ [label]) = (run step {} labels).step label := by
  simp [run]

theorem unanswered_iff (labels : List HeartbeatLabel) :
    (run step {} labels).clients.get? socket = some (some false) ↔ Unanswered labels socket := by
  induction labels using reverseRecOn with
  | nil => simp [run, Unanswered]
  | append_singleton labels label ih =>
    rw [unanswered_concat, run_concat, ← ih]
    generalize run step {} labels = heartbeat
    cases label with
    | connection other =>
      simp only [step]
      split
      · simp [Silent]
      · rename_i absent
        by_cases same : socket = other
        · subst same
          simp [Silent, has_false_iff.mp (Bool.not_eq_true _ ▸ absent)]
        · simp [Silent, get_set_other same]
    | pong other =>
      simp only [step]
      by_cases same : socket = other
      · subst same
        split
        · simp [Silent]
        · rename_i absent
          simp [Silent, has_false_iff.mp (Bool.not_eq_true _ ▸ absent)]
      · split
        · simp [Silent, get_set_other same, Ne.symm same]
        · simp [Silent, Ne.symm same]
    | closed other =>
      by_cases same : socket = other
      · subst same
        simp [step, Silent]
      · simp [step, Silent, get_delete_other same, Ne.symm same]
    | tick =>
      rw [(tick_spec heartbeat socket).1]
      simp only [Silent, Watches, and_true, true_and]
      split
      · rename_i watched
        simp [watched]
      · rename_i unwatched
        simp [unwatched]
    | clearInterval => simp [step, Silent]

theorem terminated_concat (labels : List HeartbeatLabel) (label : HeartbeatLabel) :
    socket ∈ (run step {} (labels ++ [label])).terminated ↔ socket ∈ (run step {} labels).terminated ∨
      label = .tick ∧ (run step {} labels).timer = true ∧ Unanswered labels socket := by
  rw [run_concat, ← unanswered_iff]
  cases label with
  | tick => simpa using (tick_spec (run step {} labels) socket).2
  | connection | pong =>
    simp only [step]
    split <;> simp
  | closed | clearInterval => simp [step]

-- A socket is terminated exactly when two ticks of a running timer find it, with no pong
-- and no closing between them.
theorem terminated_iff (labels : List HeartbeatLabel) (socket : Nat) :
    socket ∈ (run step {} labels).terminated ↔
      ∃ before between after, labels = before ++ .tick :: between ++ .tick :: after ∧
        (run step {} before).Watches socket ∧ (run step {} (before ++ .tick :: between)).timer = true ∧
        ∀ label ∈ between, Silent socket label := by
  induction labels using reverseRecOn with
  | nil => simp [run]
  | append_singleton labels label ih =>
    rw [terminated_concat, ih]
    constructor
    · rintro (⟨before, between, after, rfl, found⟩ | ⟨rfl, on, before, between, rfl, watched, silent⟩)
      · exact ⟨before, between, after ++ [label], by simp, found⟩
      · exact ⟨before, between, [], by simp, watched, on, silent⟩
    · rintro ⟨before, between, after, cut, watched, on, silent⟩
      rcases concat_cut cut with ⟨rfl, rfl, rfl⟩ | ⟨rest, rfl, rfl⟩
      · exact Or.inr ⟨rfl, on, before, between, rfl, watched, silent⟩
      · exact Or.inl ⟨before, between, rest, rfl, watched, on, silent⟩

end Heartbeat

end PondSocket.Js
