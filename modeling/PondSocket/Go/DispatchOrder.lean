import PondSocket.Go.Connections
import PondSocket.Go.Dispatch

namespace PondSocket.Go

open Library List
open Js (Json UserId NodeId)

-- Of two records about one connection, the first is about an earlier event, or
-- about the pipeline where the second is about the sendMessage of the event.
def Before (first second : Passed) : Prop :=
  first.number < second.number ∨
    first.number = second.number ∧ first.point = .pipeline ∧ second.point = .sendMessage

namespace Dispatcher

variable (dispatcher : Dispatcher)

def reached (dispatcher : Dispatcher) (id : UserId) (serial : Nat) : List Passed :=
  dispatcher.passed.filter fun item => decide (item.connection.id = id ∧ item.connection.serial = serial)

structure Fifo (dispatcher : Dispatcher) : Prop where
  ordered : ∀ id serial, (dispatcher.reached id serial).Pairwise Before
  addressed : ∀ item ∈ dispatcher.passed, ∃ event, dispatcher.queued[item.number]? = some event ∧
    item.connection.id ∈ event.recipients

def Idle (dispatcher : Dispatcher) : Prop := dispatcher.channel.done = false → dispatcher.workers = []

structure Busy (dispatcher : Dispatcher) (rest : List Transport) : Prop where
  begun : 0 < dispatcher.taken
  own : ∀ worker ∈ dispatcher.workers, worker.number + 1 = dispatcher.taken
  distinct : (rest.map Transport.id).Nodup
  unstarted : ∀ conn ∈ rest, ∀ worker ∈ dispatcher.workers, worker.connection.id ≠ conn.id
  unpassed : ∀ conn ∈ rest, ∀ item ∈ dispatcher.passed, item.number + 1 = dispatcher.taken → item.connection.id ≠ conn.id
  recipient : ∀ conn ∈ rest, ∃ event, dispatcher.queued[dispatcher.taken - 1]? = some event ∧ conn.id ∈ event.recipients

structure Fresh (dispatcher : Dispatcher) : Prop where
  idle : dispatcher.Idle
  begun : 0 < dispatcher.taken
  older : ∀ worker ∈ dispatcher.workers, worker.number + 1 < dispatcher.taken
  past : ∀ item ∈ dispatcher.passed, item.number + 1 < dispatcher.taken

def LoopSound (dispatcher : Dispatcher) : Prop :=
  match dispatcher.loop with
  | .waiting => dispatcher.Idle
  | .reading => dispatcher.Fresh
  | .spawning rest => dispatcher.Busy rest
  | .awaiting => dispatcher.Busy []
  | .stopped => dispatcher.channel.done = true

def Fits (dispatcher : Dispatcher) (worker : Worker) : Prop :=
  ∀ item ∈ dispatcher.passed, item.number = worker.number → item.connection.id = worker.connection.id →
    worker.stage ≠ .entered ∧ (worker.stage = .pipeline → item.point = .pipeline)

structure Barrier (dispatcher : Dispatcher) : Prop where
  keyed : dispatcher.channel.Keyed
  distinct : ∀ event, event ∈ dispatcher.senders ∨ event ∈ dispatcher.queued → event.recipients.Nodup
  groups : dispatcher.waitGroups.length = dispatcher.taken
  counted : ∀ (number count : Nat), dispatcher.waitGroups[number]? = some count →
    count = dispatcher.workers.countP fun worker => decide (worker.number = number)
  taken : ∀ worker ∈ dispatcher.workers, worker.number < dispatcher.taken
  past : ∀ item ∈ dispatcher.passed, item.number < dispatcher.taken
  ahead : ∀ worker ∈ dispatcher.workers, ∀ item ∈ dispatcher.passed, item.number ≤ worker.number
  level : ∀ worker ∈ dispatcher.workers, ∀ other ∈ dispatcher.workers, worker.number = other.number
  apart : dispatcher.workers.Pairwise fun worker other => worker.connection.id ≠ other.connection.id
  fits : ∀ worker ∈ dispatcher.workers, dispatcher.Fits worker
  order : dispatcher.passed.Pairwise fun first second =>
    first.number ≤ second.number ∧ (first.connection.id = second.connection.id → Before first second)
  serves : ∀ worker ∈ dispatcher.workers, ∃ event, dispatcher.queued[worker.number]? = some event ∧
    worker.connection.id ∈ event.recipients
  served : ∀ item ∈ dispatcher.passed, ∃ event, dispatcher.queued[item.number]? = some event ∧
    item.connection.id ∈ event.recipients
  loop : dispatcher.LoopSound

theorem barrier_fifo (barrier : dispatcher.Barrier) : dispatcher.Fifo := by
  refine ⟨fun id serial => ?_, barrier.served⟩
  rw [reached, pairwise_filter]
  apply barrier.order.imp
  intro first second both one two
  simp only [decide_eq_true_eq] at one two
  exact both.2 (one.1.trans two.1.symm)

def Among (dispatcher next : Dispatcher) : Prop :=
  ∀ worker ∈ next.workers, ∃ other ∈ dispatcher.workers, worker.number = other.number ∧
    worker.connection = other.connection

theorem among_same {dispatcher next : Dispatcher} (same : next.workers = dispatcher.workers) :
    Among dispatcher next := by
  intro worker member
  rw [same] at member
  exact ⟨worker, member, rfl, rfl⟩

theorem loop_carried (dispatcher next : Dispatcher) (loop : next.loop = dispatcher.loop)
    (running : next.channel.done = false → dispatcher.channel.done = false)
    (workers : Among dispatcher next) (taken : next.taken = dispatcher.taken)
    (passed : next.passed = dispatcher.passed)
    (queued : ∀ (number : Nat) (event : InternalEvent), dispatcher.queued[number]? = some event →
      next.queued[number]? = some event) (sound : dispatcher.LoopSound) : next.LoopSound := by
  have idle : dispatcher.Idle → next.Idle := by
    intro before still
    apply eq_nil_iff_forall_not_mem.mpr
    intro worker member
    obtain ⟨other, listed, _⟩ := workers worker member
    rw [before (running still)] at listed
    cases listed
  have busy : ∀ rest, dispatcher.Busy rest → next.Busy rest := by
    intro rest before
    refine ⟨taken ▸ before.begun, ?_, before.distinct, ?_, ?_, fun conn member => ?_⟩
    · intro worker member
      obtain ⟨other, listed, number, _⟩ := workers worker member
      rw [number, taken]
      exact before.own other listed
    · intro conn unstarted worker member
      obtain ⟨other, listed, _, connection⟩ := workers worker member
      rw [connection]
      exact before.unstarted conn unstarted other listed
    · rw [passed, taken]
      exact before.unpassed
    · obtain ⟨event, found, listed⟩ := before.recipient conn member
      rw [taken]
      exact ⟨event, queued _ event found, listed⟩
  simp only [LoopSound] at sound ⊢
  rw [loop]
  cases state : dispatcher.loop with
  | waiting =>
    rw [state] at sound
    exact idle sound
  | reading =>
    rw [state] at sound
    have fresh : dispatcher.Fresh := sound
    refine ⟨idle fresh.idle, taken ▸ fresh.begun, ?_, ?_⟩
    · intro worker member
      obtain ⟨other, listed, number, _⟩ := workers worker member
      rw [number, taken]
      exact fresh.older other listed
    · rw [passed, taken]
      exact fresh.past
  | spawning rest =>
    rw [state] at sound
    exact busy rest sound
  | awaiting =>
    rw [state] at sound
    exact busy [] sound
  | stopped =>
    rw [state] at sound
    cases after : next.channel.done with
    | true => rfl
    | false =>
      have before : dispatcher.channel.done = true := sound
      rw [running after] at before
      cases before

variable {dispatcher}

theorem barrier_perform {op : ChannelOp} (barrier : dispatcher.Barrier) :
    (dispatcher.act (.perform op)).Barrier :=
  ⟨dispatcher.channel.keyed_act barrier.keyed, barrier.distinct, barrier.groups, barrier.counted, barrier.taken,
    barrier.past, barrier.ahead, barrier.level, barrier.apart, barrier.fits, barrier.order, barrier.serves,
    barrier.served, loop_carried dispatcher (dispatcher.act (.perform op)) rfl dispatcher.channel.running_act
      (among_same rfl) rfl rfl (fun _ _ => id) barrier.loop⟩

variable {audience : Audience} {channel : Channel}

theorem audience_nodup {event : Event} : (channel.audience event audience).Nodup := by
  have connected : channel.connections.keys.Nodup := channel.connections.store.distinct
  have tracked : channel.presence.keys.Nodup := channel.presence.store.distinct
  cases audience with
  | all => exact connected
  | allExceptSender | users => exact connected.filter _
  | tracked => exact tracked.filter _
  | remote =>
    simp only [Channel.audience, Channel.messageRecipients]
    split
    · exact connected.filter _
    split
    · exact connected.filter _
    · exact connected

theorem barrier_address {event : Event} (barrier : dispatcher.Barrier) :
    (dispatcher.address event audience).Barrier := by
  simp only [address]
  cases made : Channel.addressed event (dispatcher.channel.audience event audience) with
  | none => exact barrier
  | some item =>
    have nodup : item.recipients.Nodup := by
      simp only [Channel.addressed] at made
      split at made
      · cases made
      · rw [← Option.some.inj made]
        exact audience_nodup
    refine ⟨barrier.keyed, ?_, barrier.groups, barrier.counted, barrier.taken, barrier.past, barrier.ahead,
      barrier.level, barrier.apart, barrier.fits, barrier.order, barrier.serves, barrier.served,
      loop_carried dispatcher { dispatcher with senders := dispatcher.senders ++ [item] } rfl id (among_same rfl)
        rfl rfl (fun _ _ => id) barrier.loop⟩
    intro other member
    rcases member with sender | waiting
    · rcases mem_append.mp sender with before | last
      · exact barrier.distinct other (.inl before)
      · rw [mem_singleton.mp last]
        exact nodup
    · exact barrier.distinct other (.inr waiting)

theorem barrier_give_up {sender : Nat} (barrier : dispatcher.Barrier) :
    (dispatcher.act (.giveUp sender)).Barrier := by
  refine ⟨barrier.keyed, ?_, barrier.groups, barrier.counted, barrier.taken, barrier.past, barrier.ahead,
    barrier.level, barrier.apart, barrier.fits, barrier.order, barrier.serves, barrier.served,
    loop_carried dispatcher (dispatcher.act (.giveUp sender)) rfl id (among_same rfl) rfl rfl
      (fun _ _ => id) barrier.loop⟩
  intro event member
  rcases member with waiting | queued
  · exact barrier.distinct event (.inl (mem_of_mem_eraseIdx waiting))
  · exact barrier.distinct event (.inr queued)

theorem barrier_enqueue {sender : Nat} (barrier : dispatcher.Barrier) :
    (dispatcher.enqueue sender).Barrier := by
  simp only [enqueue]
  cases found : dispatcher.senders[sender]? with
  | none => exact barrier
  | some item =>
    dsimp only
    split
    · have kept : ∀ (number : Nat) (event : InternalEvent), dispatcher.queued[number]? = some event →
          (dispatcher.queued ++ [item])[number]? = some event := by
        intro number event there
        rw [List.getElem?_append_left (List.getElem?_eq_some_iff.mp there).1]
        exact there
      refine ⟨barrier.keyed, ?_, barrier.groups, barrier.counted, barrier.taken, barrier.past, barrier.ahead,
        barrier.level, barrier.apart, barrier.fits, barrier.order, fun worker member => ?_, fun passed member => ?_,
        loop_carried dispatcher { dispatcher with
          senders := dispatcher.senders.eraseIdx sender
          queued := dispatcher.queued ++ [item] } rfl id (among_same rfl) rfl rfl kept barrier.loop⟩
      · intro event member
        rcases member with waiting | queued
        · exact barrier.distinct event (.inl (mem_of_mem_eraseIdx waiting))
        rcases mem_append.mp queued with before | last
        · exact barrier.distinct event (.inr before)
        · rw [mem_singleton.mp last]
          exact barrier.distinct item (.inl (mem_of_getElem? found))
      · obtain ⟨event, there, listed⟩ := barrier.serves worker member
        exact ⟨event, kept _ event there, listed⟩
      · obtain ⟨event, there, listed⟩ := barrier.served passed member
        exact ⟨event, kept _ event there, listed⟩
    · exact barrier

theorem barrier_loop {loop : Loop} (sound : LoopSound { dispatcher with loop := loop })
    (barrier : dispatcher.Barrier) : Barrier { dispatcher with loop := loop } :=
  ⟨barrier.keyed, barrier.distinct, barrier.groups, barrier.counted, barrier.taken, barrier.past, barrier.ahead,
    barrier.level, barrier.apart, barrier.fits, barrier.order, barrier.serves, barrier.served, sound⟩

theorem barrier_receive (barrier : dispatcher.Barrier) : dispatcher.receive.Barrier := by
  have loop := barrier.loop
  simp only [receive, LoopSound] at loop ⊢
  cases state : dispatcher.loop with
  | waiting =>
    rw [state] at loop
    dsimp only
    split
    · refine ⟨barrier.keyed, barrier.distinct, ?_, ?_, ?_, ?_, barrier.ahead, barrier.level, barrier.apart, barrier.fits,
        barrier.order, barrier.serves, barrier.served, loop, Nat.succ_pos _, ?_, ?_⟩
      · rw [length_append, barrier.groups]
        rfl
      · intro number count there
        rcases get_concat there with before | ⟨fresh, rfl⟩
        · exact barrier.counted number count before
        symm
        rw [countP_eq_zero]
        intro worker member
        have below := barrier.taken worker member
        rw [fresh, barrier.groups]
        simp only [decide_eq_true_eq]
        omega
      · intro worker member
        exact Nat.lt_succ_of_lt (barrier.taken worker member)
      · intro item member
        exact Nat.lt_succ_of_lt (barrier.past item member)
      · intro worker member
        exact Nat.succ_lt_succ (barrier.taken worker member)
      · intro item member
        exact Nat.succ_lt_succ (barrier.past item member)
    · exact barrier
  | reading | spawning | awaiting | stopped => exact barrier

theorem barrier_stop (barrier : dispatcher.Barrier) : dispatcher.stop.Barrier := by
  simp only [stop]
  cases dispatcher.loop with
  | waiting =>
    dsimp only
    split
    · rename_i done
      exact barrier_loop done barrier
    · exact barrier
  | reading | spawning | awaiting | stopped => exact barrier

theorem barrier_recovered (barrier : dispatcher.Barrier) : dispatcher.recovered.Barrier := by
  have loop := barrier.loop
  simp only [recovered, LoopSound] at loop ⊢
  cases state : dispatcher.loop with
  | reading =>
    rw [state] at loop
    have fresh : dispatcher.Fresh := loop
    exact barrier_loop fresh.idle barrier
  | waiting | spawning | awaiting | stopped => exact barrier

theorem get_by_keys_ids (keyed : channel.Keyed) (keys : List UserId) :
    (channel.connections.getByKeys keys).map Transport.id = keys.filter fun key => channel.connections.has key := by
  induction keys with
  | nil => rfl
  | cons key _ ih =>
    simp only [Store.getByKeys, Store.has, OrderedMap.has] at ih ⊢
    cases found : channel.connections.store.get? key with
    | none => simpa [filterMap_cons, found] using ih
    | some connection => simpa [filterMap_cons, found, keyed key connection found] using ih

theorem barrier_read (barrier : dispatcher.Barrier) : dispatcher.read.Barrier := by
  have loop := barrier.loop
  simp only [read, LoopSound] at loop ⊢
  cases state : dispatcher.loop with
  | waiting | spawning | awaiting | stopped => exact barrier
  | reading =>
    rw [state] at loop
    have fresh : dispatcher.Fresh := loop
    have back : Barrier { dispatcher with loop := .waiting } := barrier_loop fresh.idle barrier
    cases check : dispatcher.channel.checkState with
    | some => exact back
    | none =>
      have running : dispatcher.channel.done = false := by
        simp only [Channel.checkState] at check
        split at check
        · cases check
        · rename_i still
          exact Bool.eq_false_iff.mpr still
      cases found : dispatcher.queued[dispatcher.taken - 1]? with
      | none => exact back
      | some item =>
        dsimp only
        split
        · exact back
        have nobody := fresh.idle running
        have ids := get_by_keys_ids barrier.keyed item.recipients
        have nodup := barrier.distinct item (.inr (mem_of_getElem? found))
        have listed : ∀ conn ∈ dispatcher.channel.connections.getByKeys item.recipients, conn.id ∈ item.recipients := by
          intro conn member
          have among : conn.id ∈ (dispatcher.channel.connections.getByKeys item.recipients).map Transport.id :=
            mem_map_of_mem member
          rw [ids] at among
          exact (mem_filter.mp among).1
        apply barrier_loop _ barrier
        refine ⟨fresh.begun, ?_, ?_, ?_, ?_, ?_⟩
        · rw [nobody]
          exact fun worker member => absurd member not_mem_nil
        · rw [ids]
          exact nodup.filter _
        · rw [nobody]
          exact fun conn _ worker member => absurd member not_mem_nil
        · intro conn _ item member same
          have below := fresh.past item member
          dsimp only at same
          omega
        · exact fun conn member => ⟨item, found, listed conn member⟩

theorem barrier_spawn (barrier : dispatcher.Barrier) : dispatcher.spawn.Barrier := by
  have loop := barrier.loop
  simp only [spawn, LoopSound] at loop ⊢
  cases state : dispatcher.loop with
  | waiting | reading | awaiting | stopped => exact barrier
  | spawning rest =>
    rw [state] at loop
    have busy : dispatcher.Busy rest := loop
    cases rest with
    | nil => exact barrier_loop ⟨busy.begun, busy.own, busy.distinct, busy.unstarted, busy.unpassed,
        busy.recipient⟩ barrier
    | cons conn =>
      dsimp only
      split
      · rename_i done
        apply barrier_loop _ barrier
        intro running
        have still : dispatcher.channel.done = false := running
        rw [done] at still
        cases still
      have begun := busy.begun
      obtain ⟨fresh, distinct⟩ := nodup_cons.mp busy.distinct
      refine ⟨barrier.keyed, barrier.distinct, ?_, ?_, ?_, barrier.past, ?_, ?_, ?_, ?_, barrier.order, ?_,
        barrier.served, busy.begun, ?_, distinct, ?_, ?_, ?_⟩
      · rw [length_modify]
        exact barrier.groups
      · intro number count there
        obtain ⟨old, before, now⟩ := get_modify there
        have counted := barrier.counted number old before
        rw [countP_append, countP_singleton, ← counted, now]
        by_cases same : dispatcher.taken - 1 = number <;> simp [same]
      · intro worker member
        rcases mem_append.mp member with before | last
        · exact barrier.taken worker before
        rw [mem_singleton.mp last]
        dsimp only
        omega
      · intro worker member item listed
        rcases mem_append.mp member with before | last
        · exact barrier.ahead worker before item listed
        rw [mem_singleton.mp last]
        have below := barrier.past item listed
        dsimp only
        omega
      · have numbers : ∀ worker ∈ dispatcher.workers ++ [⟨dispatcher.taken - 1, conn, .entered⟩],
            worker.number = dispatcher.taken - 1 := by
          intro worker member
          rcases mem_append.mp member with before | last
          · have own := busy.own worker before
            omega
          · rw [mem_singleton.mp last]
        intro worker member other listed
        rw [numbers worker member, numbers other listed]
      · rw [pairwise_append]
        refine ⟨barrier.apart, pairwise_singleton _ _, fun worker member other last => ?_⟩
        rw [mem_singleton.mp last]
        exact busy.unstarted conn mem_cons_self worker member
      · intro worker member
        rcases mem_append.mp member with before | last
        · exact barrier.fits worker before
        rw [mem_singleton.mp last]
        intro item listed number same
        dsimp only at number same
        exact absurd same (busy.unpassed conn mem_cons_self item listed (by omega))
      · intro worker member
        rcases mem_append.mp member with before | last
        · exact barrier.serves worker before
        · rw [mem_singleton.mp last]
          exact busy.recipient conn mem_cons_self
      · intro worker member
        rcases mem_append.mp member with before | last
        · exact busy.own worker before
        rw [mem_singleton.mp last]
        dsimp only
        omega
      · intro other member worker listed
        rcases mem_append.mp listed with before | last
        · exact busy.unstarted other (mem_cons_of_mem _ member) worker before
        rw [mem_singleton.mp last]
        intro same
        exact fresh (mem_map.mpr ⟨other, member, same.symm⟩)
      · exact fun other member => busy.unpassed other (mem_cons_of_mem _ member)
      · exact fun other member => busy.recipient other (mem_cons_of_mem _ member)

theorem barrier_wait (barrier : dispatcher.Barrier) : dispatcher.wait.Barrier := by
  have loop := barrier.loop
  simp only [wait, LoopSound] at loop ⊢
  cases state : dispatcher.loop with
  | waiting | reading | spawning | stopped => exact barrier
  | awaiting =>
    rw [state] at loop
    have busy : dispatcher.Busy [] := loop
    dsimp only
    split
    · rename_i zero
      apply barrier_loop _ barrier
      intro _
      apply eq_nil_iff_forall_not_mem.mpr
      intro worker member
      have none := countP_eq_zero.mp (barrier.counted _ 0 zero).symm worker member
      have own := busy.own worker member
      simp only [decide_eq_true_eq] at none
      omega
    · exact barrier

variable {worker : Worker} {place : Nat}

theorem barrier_move {stage : Stage} (there : dispatcher.workers[place]? = some worker)
    (fits : dispatcher.Fits { worker with stage := stage }) (barrier : dispatcher.Barrier) :
    (dispatcher.move place worker stage).Barrier := by
  obtain ⟨split, _, written⟩ := split_place dispatcher.workers place worker there
  have moved : (dispatcher.move place worker stage).workers =
      dispatcher.workers.take place ++ { worker with stage := stage } :: dispatcher.workers.drop (place + 1) := written _
  have here : worker ∈ dispatcher.workers := mem_of_getElem? there
  have member : ∀ other ∈ (dispatcher.move place worker stage).workers,
      other ∈ dispatcher.workers ∨ other = { worker with stage := stage } := fun other => mem_or_eq_of_mem_set
  have among : Among dispatcher (dispatcher.move place worker stage) := by
    intro other listed
    rcases member other listed with old | rfl
    · exact ⟨other, old, rfl, rfl⟩
    · exact ⟨worker, here, rfl, rfl⟩
  refine ⟨barrier.keyed, barrier.distinct, barrier.groups, ?_, ?_, barrier.past, ?_, ?_, ?_, ?_, barrier.order, ?_,
    barrier.served, loop_carried dispatcher (dispatcher.move place worker stage) rfl id among rfl rfl (fun _ _ => id)
      barrier.loop⟩
  · intro number count found
    rw [moved]
    have counted := barrier.counted number count found
    rw [split] at counted
    simpa only [countP_append, countP_cons] using counted
  · intro other listed
    obtain ⟨old, known, number, _⟩ := among other listed
    rw [number]
    exact barrier.taken old known
  · intro other listed
    obtain ⟨old, known, number, _⟩ := among other listed
    rw [number]
    exact barrier.ahead old known
  · intro one first two second
    obtain ⟨_, known, number, _⟩ := among one first
    obtain ⟨_, known', number', _⟩ := among two second
    rw [number, number']
    exact barrier.level _ known _ known'
  · have apart := barrier.apart
    rw [split, pairwise_append, pairwise_cons] at apart
    rw [moved, pairwise_append, pairwise_cons]
    refine ⟨apart.1, apart.2.1, fun one first two second => ?_⟩
    rcases mem_cons.mp second with rfl | later
    · exact apart.2.2 one first worker mem_cons_self
    · exact apart.2.2 one first two (mem_cons_of_mem _ later)
  · intro other listed
    rcases member other listed with old | rfl
    · exact barrier.fits other old
    · exact fits
  · intro other listed
    obtain ⟨old, known, number, connection⟩ := among other listed
    rw [number, connection]
    exact barrier.serves old known

theorem apart_ids {workers : List Worker}
    (apart : workers.Pairwise fun worker other => worker.connection.id ≠ other.connection.id) :
    ∀ worker ∈ workers, ∀ other ∈ workers, worker = other ∨ worker.connection.id ≠ other.connection.id := by
  induction apart with
  | nil => exact fun worker member => absurd member not_mem_nil
  | cons first _ ih =>
    intro worker member other listed
    rcases mem_cons.mp member with rfl | later
    · rcases mem_cons.mp listed with rfl | later'
      · exact .inl rfl
      · exact .inr (first other later')
    rcases mem_cons.mp listed with rfl | later'
    · exact .inr (Ne.symm (first worker later))
    · exact ih worker later other later'

theorem barrier_pass {point : Point} (member : worker ∈ dispatcher.workers)
    (free : ∀ item ∈ dispatcher.passed, item.number = worker.number → item.connection.id = worker.connection.id →
      item.point = .pipeline ∧ point = .sendMessage)
    (stage : worker.stage ≠ .entered ∧ (worker.stage = .pipeline → point = .pipeline)) (barrier : dispatcher.Barrier) :
    (dispatcher.pass worker point).Barrier := by
  have item : ∀ item ∈ (dispatcher.pass worker point).passed,
      item ∈ dispatcher.passed ∨ item = ⟨worker.number, worker.connection, point⟩ := by
    intro item listed
    rcases mem_append.mp listed with old | last
    · exact .inl old
    · exact .inr (mem_singleton.mp last)
  have others : ∀ other ∈ dispatcher.workers, other = worker ∨ worker.connection.id ≠ other.connection.id := by
    intro other listed
    rcases apart_ids barrier.apart worker member other listed with same | different
    · exact .inl same.symm
    · exact .inr different
  refine ⟨barrier.keyed, barrier.distinct, barrier.groups, barrier.counted, barrier.taken, ?_, ?_, barrier.level,
    barrier.apart, ?_, ?_, barrier.serves, ?_, ?_⟩
  · intro one listed
    rcases item one listed with old | rfl
    · exact barrier.past one old
    · exact barrier.taken worker member
  · intro other known one listed
    rcases item one listed with old | rfl
    · exact barrier.ahead other known one old
    · exact Nat.le_of_eq (barrier.level worker member other known)
  · intro other known one listed number same
    rcases item one listed with old | rfl
    · exact barrier.fits other known one old number same
    rcases others other known with rfl | different
    · exact stage
    · exact absurd same different
  · refine pairwise_append.mpr ⟨barrier.order, pairwise_singleton _ _, fun one listed two last => ?_⟩
    rw [mem_singleton.mp last]
    have ahead := barrier.ahead worker member one listed
    refine ⟨ahead, fun same => ?_⟩
    rcases Nat.lt_or_eq_of_le ahead with less | equal
    · exact .inl less
    · exact .inr ⟨equal, free one listed equal same⟩
  · intro one listed
    rcases item one listed with old | rfl
    · exact barrier.served one old
    · exact barrier.serves worker member
  · have loop := barrier.loop
    have same : (dispatcher.pass worker point).loop = dispatcher.loop := rfl
    simp only [LoopSound] at loop ⊢
    rw [same]
    have busy : ∀ rest, dispatcher.Busy rest → (dispatcher.pass worker point).Busy rest := by
      intro rest before
      refine ⟨before.begun, before.own, before.distinct, before.unstarted, ?_, before.recipient⟩
      intro conn unstarted one listed number
      rcases item one listed with old | rfl
      · exact before.unpassed conn unstarted one old number
      · exact before.unstarted conn unstarted worker member
    cases state : dispatcher.loop with
    | waiting | stopped =>
      rw [state] at loop
      exact loop
    | reading =>
      rw [state] at loop
      have fresh : dispatcher.Fresh := loop
      refine ⟨fresh.idle, fresh.begun, fresh.older, fun one listed => ?_⟩
      rcases item one listed with old | rfl
      · exact fresh.past one old
      · exact fresh.older worker member
    | spawning rest =>
      rw [state] at loop
      exact busy rest loop
    | awaiting =>
      rw [state] at loop
      exact busy [] loop

theorem barrier_finish (there : dispatcher.workers[place]? = some worker) (barrier : dispatcher.Barrier) :
    Barrier { dispatcher with
      workers := dispatcher.workers.eraseIdx place
      waitGroups := dispatcher.waitGroups.modify worker.number fun count => count - 1 } := by
  obtain ⟨split, erased, _⟩ := split_place dispatcher.workers place worker there
  have kept : ∀ other ∈ dispatcher.workers.eraseIdx place, other ∈ dispatcher.workers := fun _ => mem_of_mem_eraseIdx
  refine ⟨barrier.keyed, barrier.distinct, ?_, ?_, fun other listed => barrier.taken other (kept other listed),
    barrier.past, fun other listed => barrier.ahead other (kept other listed),
    fun one first two second => barrier.level one (kept one first) two (kept two second),
    barrier.apart.sublist (eraseIdx_sublist _ _), fun other listed => barrier.fits other (kept other listed),
    barrier.order, fun other listed => barrier.serves other (kept other listed), barrier.served,
    loop_carried dispatcher { dispatcher with
      workers := dispatcher.workers.eraseIdx place
      waitGroups := dispatcher.waitGroups.modify worker.number fun count => count - 1 } rfl id
      (fun other listed => ⟨other, kept other listed, rfl, rfl⟩) rfl rfl (fun _ _ => id) barrier.loop⟩
  · rw [length_modify]
    exact barrier.groups
  intro number count found
  obtain ⟨old, held, now⟩ := get_modify found
  have counted := barrier.counted number old held
  rw [split, countP_append, countP_cons] at counted
  rw [erased, countP_append, now]
  by_cases same : worker.number = number
  · simp only [same, decide_true, if_true] at counted ⊢
    omega
  · simp only [same, decide_false, Bool.false_eq_true, if_false] at counted ⊢
    omega

theorem barrier_advance {ok : Bool} (barrier : dispatcher.Barrier) : (dispatcher.advance place ok).Barrier := by
  simp only [advance]
  cases there : dispatcher.workers[place]? with
  | none => exact barrier
  | some worker =>
    have fits := barrier.fits worker (mem_of_getElem? there)
    have returned : (dispatcher.move place worker .returned).Barrier := by
      apply barrier_move there _ barrier
      exact fun item listed number same => ⟨fun entered => Stage.noConfusion entered, fun piped => Stage.noConfusion piped⟩
    have moved : ∀ stage, ({ worker with stage := stage } : Worker) ∈ (dispatcher.move place worker stage).workers := by
      intro stage
      exact List.mem_set (List.getElem?_eq_some_iff.mp there).1 _
    dsimp only
    cases state : worker.stage with
    | entered =>
      dsimp only
      split
      · -- Nothing of the event has reached this connection.
        have untouched : ∀ item ∈ dispatcher.passed, item.number = worker.number →
            item.connection.id ≠ worker.connection.id := by
          intro item listed number same
          exact absurd state (fits item listed number same).1
        apply barrier_pass (moved .pipeline)
        · intro item listed number same
          exact absurd same (untouched item listed number)
        · exact ⟨fun entered => Stage.noConfusion entered, fun _ => rfl⟩
        · apply barrier_move there _ barrier
          intro item listed number same
          exact absurd same (untouched item listed number)
      · exact returned
    | pipeline =>
      dsimp only
      split
      · apply barrier_pass (moved .sending)
        · intro item listed number same
          exact ⟨(fits item listed number same).2 state, rfl⟩
        · exact ⟨fun entered => Stage.noConfusion entered, fun piped => Stage.noConfusion piped⟩
        · apply barrier_move there _ barrier
          intro item listed number same
          exact ⟨fun entered => Stage.noConfusion entered, fun piped => Stage.noConfusion piped⟩
      · exact returned
    | sending => exact returned
    | returned => exact barrier_finish there barrier

theorem barrier_act {label : DispatchLabel} (barrier : dispatcher.Barrier) :
    (dispatcher.act label).Barrier := by
  cases label with
  | perform => exact barrier_perform barrier
  | address => exact barrier_address barrier
  | enqueue => exact barrier_enqueue barrier
  | giveUp => exact barrier_give_up barrier
  | receive => exact barrier_receive barrier
  | stop => exact barrier_stop barrier
  | read => exact barrier_read barrier
  | recovered => exact barrier_recovered barrier
  | spawn => exact barrier_spawn barrier
  | wait => exact barrier_wait barrier
  | advance => exact barrier_advance barrier

theorem connections_fifo (name : String) (nodeId : NodeId) (distributed onDestroy : Bool) (heartbeatTimeout : Nat)
    (labels : List DispatchLabel) :
    Always act Fifo { channel := newChannel name nodeId distributed onDestroy heartbeatTimeout } labels := by
  have initial : Barrier { channel := newChannel name nodeId distributed onDestroy heartbeatTimeout } := by
    refine ⟨?_, ?_, rfl, ?_, ?_, ?_, ?_, ?_, .nil, ?_, .nil, ?_, ?_, fun _ => rfl⟩
    · intro userId connection found
      cases found
    · intro event member
      rcases member with sender | queued
      · cases sender
      · cases queued
    · intro number count found
      cases found
    · exact fun worker member => absurd member not_mem_nil
    · exact fun item member => absurd member not_mem_nil
    · exact fun worker member => absurd member not_mem_nil
    · exact fun worker member => absurd member not_mem_nil
    · exact fun worker member => absurd member not_mem_nil
    · exact fun worker member => absurd member not_mem_nil
    · exact fun item member => absurd member not_mem_nil
  apply always_mono act Barrier Fifo barrier_fifo
  exact always_of_follows act (fun _ _ => True) Barrier (fun dispatcher label barrier _ => barrier_act barrier)
    _ initial (follows_all act _ _ labels fun _ _ => trivial)

end Dispatcher

end PondSocket.Go
