import PondSocket.Go.DispatchOrder

namespace PondSocket.Go

open Library List
open Js (Json UserId NodeId)

namespace Dispatcher

variable (dispatcher : Dispatcher)

-- How often the event at a place of the queue is for a user, has been handed to
-- the outgoing pipeline of the user's connection, is about to be by a goroutine
-- that has been started, and has yet to be given to one.
def listed (dispatcher : Dispatcher) (number : Nat) (userId : UserId) : Nat :=
  match dispatcher.queued[number]? with
  | none => 0
  | some item => item.recipients.count userId

def handed (dispatcher : Dispatcher) (number : Nat) (userId : UserId) : Nat :=
  dispatcher.passed.countP fun item =>
    decide (item.number = number ∧ item.connection.id = userId ∧ item.point = .pipeline)

def entered (dispatcher : Dispatcher) (number : Nat) (userId : UserId) : Nat :=
  dispatcher.workers.countP fun worker =>
    decide (worker.number = number ∧ worker.connection.id = userId ∧ worker.stage = .entered)

def due (dispatcher : Dispatcher) (number : Nat) (userId : UserId) : Nat :=
  match dispatcher.loop with
  | .reading => if dispatcher.taken ≤ number + 1 then dispatcher.listed number userId else 0
  | .spawning rest =>
    if dispatcher.taken = number + 1 then rest.countP fun conn => decide (conn.id = userId)
    else if dispatcher.taken ≤ number then dispatcher.listed number userId
    else 0
  | .waiting | .awaiting | .stopped => if dispatcher.taken ≤ number then dispatcher.listed number userId else 0

structure Accounted (dispatcher : Dispatcher) : Prop where
  running : dispatcher.channel.done = false
  keyed : dispatcher.channel.Keyed
  seated : ∀ userId, dispatcher.channel.connections.has userId = true → dispatcher.channel.store.has userId = true
  connected : ∀ item, item ∈ dispatcher.senders ∨ item ∈ dispatcher.queued →
    ∀ userId ∈ item.recipients, dispatcher.channel.connections.has userId = true
  within : dispatcher.taken ≤ dispatcher.queued.length
  begun : dispatcher.loop = .waiting ∨ 0 < dispatcher.taken
  counted : ∀ number userId,
    dispatcher.handed number userId + dispatcher.entered number userId + dispatcher.due number userId =
      dispatcher.listed number userId

-- The steps of the dispatcher itself when no user leaves and no send times out.
-- GetUser gives no error for a user of the store.
def Smooth (dispatcher : Dispatcher) : DispatchLabel → Prop
  | .enqueue _ | .receive | .stop | .read | .spawn | .wait => True
  | .advance place ok => ∀ worker ∈ dispatcher.workers[place]?, worker.stage = .entered →
      dispatcher.channel.store.has worker.connection.id = true → ok = true
  | .perform _ | .address _ _ | .giveUp _ | .recovered => False

instance (dispatcher : Dispatcher) (label : DispatchLabel) : Decidable (dispatcher.Smooth label) :=
  match label with
  | .enqueue _ | .receive | .stop | .read | .spawn | .wait => isTrue trivial
  | .advance place ok => inferInstanceAs (Decidable (∀ worker ∈ dispatcher.workers[place]?, worker.stage = .entered →
      dispatcher.channel.store.has worker.connection.id = true → ok = true))
  | .perform _ | .address _ _ | .giveUp _ | .recovered => isFalse id

theorem listed_beyond {number : Nat} {userId : UserId}
    (beyond : dispatcher.queued.length ≤ number) : dispatcher.listed number userId = 0 := by
  rw [listed, getElem?_eq_none beyond]

theorem accounted_push {senders : List InternalEvent} {item : InternalEvent}
    (fewer : ∀ other ∈ senders, other ∈ dispatcher.senders)
    (connected : ∀ userId ∈ item.recipients, dispatcher.channel.connections.has userId = true)
    (accounted : dispatcher.Accounted) :
    Accounted { dispatcher with senders := senders, queued := dispatcher.queued ++ [item] } := by
  refine ⟨accounted.running, accounted.keyed, accounted.seated, ?_, ?_, accounted.begun, ?_⟩
  · intro other member
    rcases member with sender | queued
    · exact accounted.connected other (.inl (fewer other sender))
    rcases mem_append.mp queued with before | last
    · exact accounted.connected other (.inr before)
    · rw [mem_singleton.mp last]
      exact connected
  · have within := accounted.within
    rw [length_append]
    exact Nat.le_trans within (Nat.le_add_right _ _)
  · intro number userId
    have within := accounted.within
    have before := accounted.counted number userId
    by_cases last : number = dispatcher.queued.length
    · have none_yet : dispatcher.listed number userId = 0 :=
        dispatcher.listed_beyond (Nat.le_of_eq last.symm)
      have all_due : due { dispatcher with senders := senders, queued := dispatcher.queued ++ [item] } number userId =
          listed { dispatcher with senders := senders, queued := dispatcher.queued ++ [item] } number userId := by
        simp only [due]
        cases dispatcher.loop with
        | reading | waiting | awaiting | stopped => exact if_pos (by omega)
        | spawning =>
          dsimp only
          rw [if_neg (by omega), if_pos (by omega)]
      simp only [handed, entered] at before ⊢
      omega
    · have same : listed { dispatcher with senders := senders, queued := dispatcher.queued ++ [item] } number userId =
          dispatcher.listed number userId := by
        simp only [listed]
        rcases Nat.lt_or_gt_of_ne last with inside | _
        · rw [getElem?_append_left inside]
        · rw [getElem?_eq_none (by simp; omega), getElem?_eq_none (by omega)]
      have still : due { dispatcher with senders := senders, queued := dispatcher.queued ++ [item] } number userId =
          dispatcher.due number userId := by
        simp [due, same]
      rw [same, still]
      exact before

theorem accounted_enqueue {sender : Nat} (accounted : dispatcher.Accounted) :
    (dispatcher.enqueue sender).Accounted := by
  simp only [enqueue]
  cases found : dispatcher.senders[sender]? with
  | none => exact accounted
  | some item =>
    dsimp only
    split
    · apply accounted_push dispatcher (fun _ => mem_of_mem_eraseIdx) _ accounted
      exact accounted.connected item (.inl (mem_of_getElem? found))
    · exact accounted

theorem accounted_address {event : Event} {audience : Audience}
    (among : ∀ userId ∈ dispatcher.channel.audience event audience, dispatcher.channel.connections.has userId = true)
    (accounted : dispatcher.Accounted) : (dispatcher.address event audience).Accounted := by
  simp only [address, Channel.addressed]
  by_cases nobody : (dispatcher.channel.audience event audience).isEmpty = true
  · rw [if_pos nobody]
    exact accounted
  rw [if_neg nobody]
  refine ⟨accounted.running, accounted.keyed, accounted.seated, ?_, accounted.within, accounted.begun,
    accounted.counted⟩
  intro other member
  rcases member with sender | queued
  · rcases mem_append.mp sender with before | last
    · exact accounted.connected other (.inl before)
    · rw [mem_singleton.mp last]
      exact among
  · exact accounted.connected other (.inr queued)

theorem accounted_receive (accounted : dispatcher.Accounted) :
    dispatcher.receive.Accounted := by
  simp only [receive]
  cases state : dispatcher.loop with
  | waiting =>
    dsimp only
    split
    · rename_i more
      refine ⟨accounted.running, accounted.keyed, accounted.seated, accounted.connected, more,
        .inr (Nat.succ_pos _), fun number userId => ?_⟩
      have before := accounted.counted number userId
      simp only [due, state] at before
      simp only [due, Nat.add_le_add_iff_right]
      exact before
    · exact accounted
  | reading | spawning | awaiting | stopped => exact accounted

theorem accounted_stop (accounted : dispatcher.Accounted) : dispatcher.stop.Accounted := by
  simp only [stop, accounted.running]
  cases dispatcher.loop <;> exact accounted

theorem accounted_read (accounted : dispatcher.Accounted) : dispatcher.read.Accounted := by
  simp only [read]
  cases state : dispatcher.loop with
  | waiting | spawning | awaiting | stopped => exact accounted
  | reading =>
    have begun : 0 < dispatcher.taken := by
      rcases accounted.begun with waiting | begun
      · rw [state] at waiting
        cases waiting
      · exact begun
    have within := accounted.within
    obtain ⟨item, found⟩ : ∃ item, dispatcher.queued[dispatcher.taken - 1]? = some item :=
      getElem?_eq_some_iff.mpr ⟨by omega, rfl⟩ |> fun there => ⟨_, there⟩
    have check : dispatcher.channel.checkState = none := by
      rw [Channel.checkState, accounted.running]
      rfl
    -- Everybody the event is for is connected.
    have ids := get_by_keys_ids accounted.keyed item.recipients
    rw [filter_eq_self.mpr (accounted.connected item (.inr (mem_of_getElem? found)))] at ids
    have counts : ∀ userId, (dispatcher.channel.connections.getByKeys item.recipients).countP
        (fun conn => decide (conn.id = userId)) = item.recipients.count userId := by
      intro userId
      have same := congrArg (count userId) ids
      rw [count, countP_map] at same
      exact same
    rw [check, found]
    dsimp only
    split
    · rename_i nobody
      have none_due : ∀ userId, item.recipients.count userId = 0 := by
        intro userId
        rw [← counts, isEmpty_iff.mp nobody]
        rfl
      refine ⟨accounted.running, accounted.keyed, accounted.seated, accounted.connected, accounted.within, .inl rfl,
        fun number userId => ?_⟩
      have before := accounted.counted number userId
      simp only [due, state] at before
      simp only [due]
      by_cases last : dispatcher.taken = number + 1
      · have empty : dispatcher.listed number userId = 0 := by
          rw [listed, show number = dispatcher.taken - 1 by omega, found]
          exact none_due userId
        rw [if_neg (by omega)]
        simp only [handed, entered, listed] at before empty ⊢
        omega
      have same : dispatcher.taken ≤ number + 1 ↔ dispatcher.taken ≤ number := by omega
      simp only [same] at before
      exact before
    · refine ⟨accounted.running, accounted.keyed, accounted.seated, accounted.connected, accounted.within,
        .inr begun, fun number userId => ?_⟩
      have before := accounted.counted number userId
      simp only [due, state] at before
      simp only [due]
      by_cases last : dispatcher.taken = number + 1
      · have all : dispatcher.listed number userId = item.recipients.count userId := by
          rw [listed, show number = dispatcher.taken - 1 by omega, found]
        rw [if_pos (by omega), all] at before
        rw [if_pos last, counts]
        exact before.trans all.symm
      have same : dispatcher.taken ≤ number + 1 ↔ dispatcher.taken ≤ number := by omega
      simp only [same] at before
      rw [if_neg last]
      exact before

theorem accounted_spawn (accounted : dispatcher.Accounted) : dispatcher.spawn.Accounted := by
  simp only [spawn, accounted.running]
  cases state : dispatcher.loop with
  | waiting | reading | awaiting | stopped => exact accounted
  | spawning rest =>
    have begun : 0 < dispatcher.taken := by
      rcases accounted.begun with waiting | begun
      · rw [state] at waiting
        cases waiting
      · exact begun
    cases rest with
    | nil =>
      refine ⟨accounted.running, accounted.keyed, accounted.seated, accounted.connected, accounted.within,
        .inr begun, fun number userId => ?_⟩
      have before := accounted.counted number userId
      simp only [due, state] at before
      simp only [due]
      by_cases last : dispatcher.taken = number + 1
      · rw [if_pos last] at before
        rw [if_neg (by omega)]
        exact before
      · rw [if_neg last] at before
        exact before
    | cons conn =>
      dsimp only
      rw [if_neg Bool.false_ne_true]
      refine ⟨accounted.running, accounted.keyed, accounted.seated, accounted.connected, accounted.within,
        .inr begun, fun number userId => ?_⟩
      have before := accounted.counted number userId
      simp only [due, state] at before
      simp only [due, entered, handed, listed, countP_append, countP_singleton] at before ⊢
      by_cases last : dispatcher.taken = number + 1
      · rw [if_pos last, countP_cons] at before
        rw [if_pos last]
        have place : dispatcher.taken - 1 = number := by omega
        by_cases same : conn.id = userId
        · simp only [same, decide_true, if_true] at before
          simp only [place, same, and_self, decide_true, if_true]
          omega
        simp only [same, decide_false, Bool.false_eq_true, if_false] at before
        simp only [same, false_and, and_false, decide_false, Bool.false_eq_true, if_false]
        omega
      · have place : dispatcher.taken - 1 ≠ number := by omega
        simp only [place, false_and, decide_false, Bool.false_eq_true, if_false, Nat.add_zero]
        rw [if_neg last] at before
        rw [if_neg last]
        exact before

theorem accounted_wait (accounted : dispatcher.Accounted) : dispatcher.wait.Accounted := by
  simp only [wait]
  cases state : dispatcher.loop with
  | waiting | reading | spawning | stopped => exact accounted
  | awaiting =>
    dsimp only
    split
    · refine ⟨accounted.running, accounted.keyed, accounted.seated, accounted.connected, accounted.within, .inl rfl,
        fun number userId => ?_⟩
      have before := accounted.counted number userId
      simp only [due, state] at before
      exact before
    · exact accounted

variable {worker : Worker}

theorem entered_listed (member : worker ∈ dispatcher.workers) (stage : worker.stage = .entered)
    (accounted : dispatcher.Accounted) : dispatcher.channel.store.has worker.connection.id = true := by
  have counted := accounted.counted worker.number worker.connection.id
  have some_entered : 0 < dispatcher.entered worker.number worker.connection.id :=
    countP_pos_iff.mpr ⟨worker, member, decide_eq_true ⟨rfl, rfl, stage⟩⟩
  have some_listed : 0 < dispatcher.listed worker.number worker.connection.id := by omega
  rw [listed] at some_listed
  cases found : dispatcher.queued[worker.number]? with
  | none =>
    rw [found] at some_listed
    exact absurd some_listed (Nat.lt_irrefl 0)
  | some item =>
    rw [found] at some_listed
    apply accounted.seated
    exact accounted.connected item (.inr (mem_of_getElem? found)) _ (count_pos_iff.mp some_listed)

variable {place : Nat}

theorem accounted_move {stage : Stage} {more : List Passed} (there : dispatcher.workers[place]? = some worker)
    (later : stage ≠ .entered) (balance : ∀ userId, (more.countP fun item =>
        decide (item.number = worker.number ∧ item.connection.id = userId ∧ item.point = .pipeline)) =
      if worker.connection.id = userId ∧ worker.stage = .entered then 1 else 0)
    (own : ∀ item ∈ more, item.number = worker.number) (accounted : dispatcher.Accounted) :
    Accounted { dispatcher with
      workers := dispatcher.workers.set place { worker with stage := stage }
      passed := dispatcher.passed ++ more } := by
  refine ⟨accounted.running, accounted.keyed, accounted.seated, accounted.connected, accounted.within, accounted.begun,
    fun number userId => ?_⟩
  have before := accounted.counted number userId
  have replaced := count_set dispatcher.workers place { worker with stage := stage }
    (fun other => decide (other.number = number ∧ other.connection.id = userId ∧ other.stage = .entered)) there
  simp only [later, and_false, decide_false, Bool.false_eq_true, if_false] at replaced
  change (dispatcher.passed ++ more).countP _ + (dispatcher.workers.set place { worker with stage := stage }).countP _ +
    dispatcher.due number userId = dispatcher.listed number userId
  rw [countP_append]
  by_cases mine : worker.number = number
  · subst mine
    rw [balance userId]
    simp only [true_and, decide_eq_true_eq] at replaced
    simp only [handed, entered] at before
    omega
  have others : more.countP (fun item =>
      decide (item.number = number ∧ item.connection.id = userId ∧ item.point = .pipeline)) = 0 := by
    rw [countP_eq_zero]
    intro item member
    rw [decide_eq_true_eq, own item member]
    exact fun same => mine same.1
  simp only [mine, false_and, decide_false, Bool.false_eq_true, if_false] at replaced
  simp only [handed, entered] at before
  omega

theorem accounted_finish (there : dispatcher.workers[place]? = some worker) (stage : worker.stage = .returned)
    (accounted : dispatcher.Accounted) :
    Accounted { dispatcher with
      workers := dispatcher.workers.eraseIdx place
      waitGroups := dispatcher.waitGroups.modify worker.number fun count => count - 1 } := by
  refine ⟨accounted.running, accounted.keyed, accounted.seated, accounted.connected, accounted.within, accounted.begun,
    fun number userId => ?_⟩
  have before := accounted.counted number userId
  obtain ⟨split, erased, _⟩ := split_place dispatcher.workers place worker there
  have same : (dispatcher.workers.eraseIdx place).countP (fun other =>
      decide (other.number = number ∧ other.connection.id = userId ∧ other.stage = .entered)) =
      dispatcher.entered number userId := by
    rw [entered, erased]
    conv_rhs => rw [split]
    rw [countP_append, countP_append, countP_cons, stage]
    simp
  change dispatcher.handed number userId + (dispatcher.workers.eraseIdx place).countP _ + dispatcher.due number userId =
    dispatcher.listed number userId
  rw [same]
  exact before

theorem accounted_advance {ok : Bool} (smooth : dispatcher.Smooth (.advance place ok))
    (accounted : dispatcher.Accounted) : (dispatcher.advance place ok).Accounted := by
  simp only [advance]
  cases there : dispatcher.workers[place]? with
  | none => exact accounted
  | some worker =>
    have nothing : worker.stage ≠ .entered → ∀ userId, ([] : List Passed).countP (fun item =>
        decide (item.number = worker.number ∧ item.connection.id = userId ∧ item.point = .pipeline)) =
        if worker.connection.id = userId ∧ worker.stage = .entered then 1 else 0 := by
      intro other userId
      rw [if_neg fun both => other both.2]
      rfl
    have quiet : ∀ stage, worker.stage ≠ .entered → stage ≠ .entered → (dispatcher.move place worker stage).Accounted := by
      intro stage other later
      have moved := accounted_move dispatcher there later (nothing other)
        (fun item member => absurd member not_mem_nil) accounted
      rw [append_nil] at moved
      exact moved
    cases stage : worker.stage with
    | entered =>
      have found := entered_listed dispatcher (mem_of_getElem? there) stage accounted
      have fine : ok = true := smooth worker there stage found
      simp only [stage]
      rw [if_pos ⟨fine, accounted.running⟩]
      refine accounted_move dispatcher there (by simp) (fun userId => ?_) (fun item member => ?_) accounted
      · simp only [countP_singleton, stage, true_and, and_true, decide_eq_true_eq]
      · rw [mem_singleton.mp member]
    | pipeline =>
      simp only [stage]
      split
      · refine accounted_move dispatcher there (by simp) (fun userId => ?_) (fun item member => ?_) accounted
        · simp only [countP_singleton, stage, reduceCtorEq, and_false, decide_false, Bool.false_eq_true, if_false]
        · rw [mem_singleton.mp member]
      · exact quiet .returned (by rw [stage]; simp) (by simp)
    | sending =>
      simp only [stage]
      exact quiet .returned (by rw [stage]; simp) (by simp)
    | returned =>
      simp only [stage]
      exact accounted_finish dispatcher there stage accounted

variable {label : DispatchLabel}

theorem accounted_act (smooth : dispatcher.Smooth label) (accounted : dispatcher.Accounted) :
    (dispatcher.act label).Accounted := by
  cases label with
  | enqueue => exact accounted_enqueue dispatcher accounted
  | receive => exact accounted_receive dispatcher accounted
  | stop => exact accounted_stop dispatcher accounted
  | read => exact accounted_read dispatcher accounted
  | spawn => exact accounted_spawn dispatcher accounted
  | wait => exact accounted_wait dispatcher accounted
  | advance => exact accounted_advance dispatcher smooth accounted
  | perform op | address event audience | giveUp sender | recovered => exact smooth.elim

inductive Queues (dispatcher next : Dispatcher) : Prop where
  | still (senders : next.senders = dispatcher.senders) (queued : next.queued = dispatcher.queued)
  | moved (place : Nat) (item : InternalEvent) (there : dispatcher.senders[place]? = some item)
      (senders : next.senders = dispatcher.senders.eraseIdx place) (queued : next.queued = dispatcher.queued ++ [item])

variable {dispatcher}

theorem smooth_queues (smooth : dispatcher.Smooth label) :
    (dispatcher.act label).channel = dispatcher.channel ∧ Queues dispatcher (dispatcher.act label) := by
  cases label with
  | enqueue sender =>
    simp only [act, enqueue]
    cases there : dispatcher.senders[sender]? with
    | none => exact ⟨rfl, .still rfl rfl⟩
    | some item =>
      dsimp only
      split
      · exact ⟨rfl, .moved sender item there rfl rfl⟩
      · exact ⟨rfl, .still rfl rfl⟩
  | receive =>
    simp only [act, receive]
    cases dispatcher.loop with
    | waiting =>
      dsimp only
      split
      · exact ⟨rfl, .still rfl rfl⟩
      · exact ⟨rfl, .still rfl rfl⟩
    | reading | spawning | awaiting | stopped => exact ⟨rfl, .still rfl rfl⟩
  | stop =>
    simp only [act, stop]
    cases dispatcher.loop with
    | waiting =>
      dsimp only
      split
      · exact ⟨rfl, .still rfl rfl⟩
      · exact ⟨rfl, .still rfl rfl⟩
    | reading | spawning | awaiting | stopped => exact ⟨rfl, .still rfl rfl⟩
  | read =>
    simp only [act, read]
    cases dispatcher.loop with
    | reading =>
      dsimp only
      split
      · split
        · exact ⟨rfl, .still rfl rfl⟩
        · exact ⟨rfl, .still rfl rfl⟩
      · exact ⟨rfl, .still rfl rfl⟩
    | waiting | spawning | awaiting | stopped => exact ⟨rfl, .still rfl rfl⟩
  | spawn =>
    simp only [act, spawn]
    cases dispatcher.loop with
    | spawning rest =>
      cases rest with
      | nil => exact ⟨rfl, .still rfl rfl⟩
      | cons =>
        dsimp only
        split
        · exact ⟨rfl, .still rfl rfl⟩
        · exact ⟨rfl, .still rfl rfl⟩
    | waiting | reading | awaiting | stopped => exact ⟨rfl, .still rfl rfl⟩
  | wait =>
    simp only [act, wait]
    cases dispatcher.loop with
    | awaiting =>
      dsimp only
      split
      · exact ⟨rfl, .still rfl rfl⟩
      · exact ⟨rfl, .still rfl rfl⟩
    | waiting | reading | spawning | stopped => exact ⟨rfl, .still rfl rfl⟩
  | advance place =>
    simp only [act, advance]
    cases dispatcher.workers[place]? with
    | none => exact ⟨rfl, .still rfl rfl⟩
    | some worker =>
      dsimp only
      cases worker.stage with
      | entered | pipeline =>
        dsimp only
        split
        · exact ⟨rfl, .still rfl rfl⟩
        · exact ⟨rfl, .still rfl rfl⟩
      | sending | returned => exact ⟨rfl, .still rfl rfl⟩
  | perform op | address event audience | giveUp sender | recovered => exact smooth.elim

end Dispatcher

end PondSocket.Go
