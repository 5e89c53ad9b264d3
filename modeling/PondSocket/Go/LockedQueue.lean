import PondSocket.Go.Dispatch
import PondSocket.Go.PresenceCalls

namespace PondSocket.Go

open Library List Channel
open Js (Json UserId NodeId)

inductive LockedCall where
  | removeUser (userId : UserId) (reason : String)
  | expired (membership : Nat)
  | addUser (user : Transport)
  | trackConnectedUser (userId : UserId) (presence : Json)

inductive Rest where
  | removal (userId : UserId) (destroyWhenEmpty : Bool)
  | rejoin (user : Transport)
  | track

namespace Channel

def presenceEvent (channel : Channel) (payload : PresencePayload) : Event where
  action := .presence
  channelName := channel.name
  requestId := ""
  payload := .object [("event", .string payload.event), ("userId", .string payload.userId), ("changed", payload.change),
    ("presence", .array payload.presence)]
  event := payload.event
  nodeId := channel.nodeId

def announce (channel : Channel) (payload : PresencePayload) : Channel × Option InternalEvent :=
  let channel := channel.publishPresence payload
  (channel, addressed (channel.presenceEvent payload) channel.presenceRecipients)

def unTrackQueued (channel : Channel) (userId : UserId) : Channel × Option InternalEvent :=
  match channel.unTrackLocked userId with
  | .error _ => (channel, none)
  | .ok (next, payload) => next.announce payload

-- removeUserLocalWithDestroy up to the select of its UnTrack, and from there on.
def startRemoval (channel : Channel) (userId : UserId) (reason : String) : Channel × Option InternalEvent :=
  let channel := channel.releaseMembership userId reason
  let channel := { channel with store := channel.store.drop userId }
  channel.unTrackQueued userId

def finishRemoval (channel : Channel) (userId : UserId) (destroyWhenEmpty : Bool) : Channel :=
  let channel := { channel with connections := channel.connections.drop userId }
  let channel := channel.publish (.userLeft userId)
  let remainingUsers := channel.store.len
  if destroyWhenEmpty ∧ channel.onDestroy ∧ remainingUsers = 0 then
    { channel with teardowns := channel.teardowns + 1 }
  else channel

def finish (channel : Channel) : Rest → Channel
  | .removal userId destroyWhenEmpty => channel.finishRemoval userId destroyWhenEmpty
  | .rejoin user => ((channel.finishRemoval user.id false).createUser user).1
  | .track => channel

def start (channel : Channel) : LockedCall → Channel × Option (Option InternalEvent × Rest)
  | .removeUser userId reason =>
    match channel.checkState, channel.getUserUnsafe userId with
    | none, .ok _ =>
      let started := channel.startRemoval userId reason
      (started.1, some (started.2, .removal userId true))
    | _, _ => ((channel.removeUser userId reason).1, none)
  | .expired membership =>
    match channel.issued[membership]? with
    | none => (channel, none)
    | some entry =>
      match channel.memberships.read entry.connection.id with
      | .error _ => (channel, none)
      | .ok current =>
        if current ≠ membership then (channel, none)
        else
          let started := channel.startRemoval entry.connection.id (channel.reason membership)
          (started.1, some (started.2, .removal entry.connection.id true))
  | .addUser user =>
    match channel.checkState, channel.memberships.read user.id with
    | none, .ok existing =>
      if channel.active existing then (channel, none)
      else
        let started := channel.startRemoval user.id (channel.reason existing)
        (started.1, some (started.2, .rejoin user))
    | _, _ => ((channel.addUser user).1, none)
  | .trackConnectedUser userId presence =>
    match channel.checkState, channel.memberships.read userId with
    | none, .ok membership =>
      if channel.active membership = false then (channel, none)
      else
        match channel.trackLocked userId presence with
        | .error _ => (channel, none)
        | .ok (next, payload) =>
          let announced := next.announce payload
          (announced.1, some (announced.2, .track))
    | _, _ => (channel, none)

end Channel

def LockedCall.op : LockedCall → ChannelOp
  | .removeUser userId reason => .removeUser userId reason
  | .expired membership => .expired membership
  | .addUser user => .addUser user
  | .trackConnectedUser userId presence => .trackConnectedUser userId presence

def Channel.settle (channel : Channel) (call : LockedCall) : Channel :=
  match channel.start call with
  | (next, none) => next
  | (next, some (_, rest)) => next.finish rest

theorem un_track_queued (channel : Channel) (userId : UserId) :
    (channel.unTrackQueued userId).1 = channel.unTrack userId := by
  rw [un_track_eq, unTrackQueued]
  cases channel.unTrackLocked userId <;> rfl

variable {channel : Channel} {userId : UserId}

theorem finish_start_removal {reason : String} {destroyWhenEmpty : Bool} :
    (channel.startRemoval userId reason).1.finishRemoval userId destroyWhenEmpty =
      channel.removeUserLocalWithDestroy userId reason destroyWhenEmpty := by
  rw [startRemoval, un_track_queued]
  rfl

theorem track_start {presence : Json} :
    channel.settle (.trackConnectedUser userId presence) = (channel.trackConnectedUser userId presence).1 := by
  simp only [settle, Channel.start, Channel.trackConnectedUser]
  cases channel.checkState with
  | some => rfl
  | none =>
    cases channel.memberships.read userId with
    | error => rfl
    | ok membership =>
      by_cases gone : channel.active membership = false
      · simp [if_pos gone]
      · simp only [if_neg gone, trackLocked]
        cases channel.presence.create userId presence <;> rfl

theorem settle_act (channel : Channel) (call : LockedCall) : channel.settle call = channel.act call.op := by
  cases call with
  | removeUser userId =>
    simp only [settle, Channel.start, LockedCall.op, act, Channel.removeUser]
    cases channel.checkState with
    | some => rfl
    | none =>
      cases channel.getUserUnsafe userId with
      | error => rfl
      | ok => exact finish_start_removal
  | expired membership =>
    simp only [settle, Channel.start, LockedCall.op, act, expire,
      removeExpiredMembership]
    cases channel.issued[membership]? with
    | none => rfl
    | some entry =>
      cases found : channel.memberships.read entry.connection.id with
      | error => simp [found]
      | ok current =>
        simp only [found]
        by_cases same : current = membership
        · rw [if_neg (not_not_intro same), if_neg (not_not_intro same)]
          exact finish_start_removal
        · rw [if_pos same, if_pos same]
  | addUser user =>
    simp only [settle, Channel.start, LockedCall.op, act, Channel.addUser]
    cases channel.checkState with
    | some => rfl
    | none =>
      cases channel.memberships.read user.id with
      | error => rfl
      | ok existing =>
        by_cases held : channel.active existing = true
        · simp [if_pos held]
        · simp [if_neg held, Channel.finish, finish_start_removal]
  | trackConnectedUser => exact track_start

-- The channel's mutex: free, or with a call that is at its select, waits there for
-- space in the queue, or has its rest to do.
inductive Mutex where
  | free
  | offering (item : InternalEvent) (rest : Rest)
  | waiting (item : InternalEvent) (rest : Rest)
  | finishing (rest : Rest)

def Mutex.held : Mutex → Bool
  | .free => false
  | _ => true

def Mutex.offers : Mutex → Bool
  | .offering _ _ => true
  | _ => false

def Mutex.waits : Mutex → Bool
  | .waiting _ _ => true
  | _ => false

-- A goroutine that waits for space in the queue; holds says that it has the mutex.
structure QueueWaiter where
  item : InternalEvent
  holds : Bool

-- Where a delivery is in processOutgoing; it waits for the mutex in GetUser.
inductive DeliveryStage where
  | entered
  | locking
  | pipeline
  | sending
  | returned
deriving DecidableEq

structure QueueDelivery where
  number : Nat
  connection : Transport
  stage : DeliveryStage

inductive QueueLoop where
  | waiting
  | reading (item : InternalEvent)
  | spawning (rest : List Transport)
  | awaiting
  | stopped

def QueueLoop.resting : QueueLoop → Bool
  | .reading _ => false
  | .spawning _ => false
  | _ => true

-- senders are about to queue an event without the mutex, and waiters wait for space,
-- in their order. lost holds the presence events that were given up while a delivery
-- waited for the mutex of the call.
structure LockedQueue where
  channel : Channel
  mutex : Mutex := .free
  senders : List InternalEvent := []
  waiters : List QueueWaiter := []
  queue : List InternalEvent := []
  taken : Nat := 0
  loop : QueueLoop := .waiting
  deliveries : List QueueDelivery := []
  lost : List InternalEvent := []

inductive QueueLabel where
  | perform (op : PresenceOp)
  | call (call : LockedCall)
  | offer (sent : Bool)
  | timeout
  | cancelled
  | finish
  | address (event : Event) (audience : Audience)
  | arrive (sender : Nat) (sent : Bool)
  | giveUp (waiter : Nat)
  | receive
  | stop
  | read
  | recovered
  | spawn
  | wait
  | advance (delivery : Nat) (ok : Bool)

namespace LockedQueue

def isCommand (data : Json) : Bool :=
  (decodeEnvelope data).any fun env => decide (env.type = some .evictUser ∨ env.type = some .userRemove)

def perform (run : LockedQueue) (op : PresenceOp) : LockedQueue :=
  let done := { run with channel := run.channel.perform op }
  match op with
  | .channel (.addUser _) | .channel (.removeUser _ _) | .channel (.expired _) | .channel (.trackConnectedUser _ _) => run
  | .channel .close | .channel (.updateAssigns _ _ _) => if run.mutex.held then run else done
  | .channel (.receive _ data) => if isCommand data then run else done
  | _ => done

def call (run : LockedQueue) (call : LockedCall) : LockedQueue :=
  if run.mutex.held then run
  else
    match run.channel.start call with
    | (next, none) => { run with channel := next }
    | (next, some (none, rest)) => { run with channel := next.finish rest }
    | (next, some (some item, rest)) => { run with channel := next, mutex := .offering item rest }

def takes (run : LockedQueue) (sent : Bool) : Bool :=
  decide (run.queue.length < queueCapacity) && (sent || !run.channel.done)

def offer (run : LockedQueue) (sent : Bool) : LockedQueue :=
  match run.mutex with
  | .offering item rest =>
    if run.takes sent then { run with mutex := .finishing rest, queue := run.queue ++ [item] }
    else if run.channel.done then { run with mutex := .finishing rest }
    else { run with mutex := .waiting item rest, waiters := run.waiters ++ [⟨item, true⟩] }
  | _ => run

def stuck (run : LockedQueue) : Bool :=
  run.mutex.waits && run.deliveries.any fun delivery => decide (delivery.stage = .locking)

def withdraw (run : LockedQueue) (rest : Rest) : LockedQueue :=
  { run with mutex := .finishing rest, waiters := run.waiters.filter fun waiter => !waiter.holds }

def timeout (run : LockedQueue) : LockedQueue :=
  match run.mutex with
  | .waiting item rest =>
    { run.withdraw rest with lost := if run.stuck then run.lost ++ [item] else run.lost }
  | _ => run

def cancelled (run : LockedQueue) : LockedQueue :=
  match run.mutex with
  | .waiting _ rest => if run.channel.done then run.withdraw rest else run
  | _ => run

def finish (run : LockedQueue) : LockedQueue :=
  match run.mutex with
  | .finishing rest => { run with mutex := .free, channel := run.channel.finish rest }
  | _ => run

def address (run : LockedQueue) (event : Event) (audience : Audience) : LockedQueue :=
  match Channel.addressed event (run.channel.audience event audience) with
  | none => run
  | some item => { run with senders := run.senders ++ [item] }

def arrive (run : LockedQueue) (sender : Nat) (sent : Bool) : LockedQueue :=
  match run.senders[sender]? with
  | none => run
  | some item =>
    let gone := { run with senders := run.senders.eraseIdx sender }
    if run.takes sent then { gone with queue := run.queue ++ [item] }
    else if run.channel.done then gone
    else { gone with waiters := run.waiters ++ [⟨item, false⟩] }

def giveUp (run : LockedQueue) (place : Nat) : LockedQueue :=
  match run.waiters[place]? with
  | none => run
  | some waiter => if waiter.holds then run else { run with waiters := run.waiters.eraseIdx place }

-- The event of the goroutine that has waited longest takes the place that is free.
def receive (run : LockedQueue) : LockedQueue :=
  match run.loop, run.queue with
  | .waiting, first :: queue =>
    let taken := { run with loop := .reading first, taken := run.taken + 1, queue := queue }
    match run.waiters with
    | [] => taken
    | waiter :: waiters =>
      let handed := { taken with queue := queue ++ [waiter.item], waiters := waiters }
      match waiter.holds, run.mutex with
      | true, .waiting _ rest => { handed with mutex := .finishing rest }
      | _, _ => handed
  | _, _ => run

def stop (run : LockedQueue) : LockedQueue :=
  match run.loop with
  | .waiting => if run.channel.done then { run with loop := .stopped } else run
  | _ => run

def read (run : LockedQueue) : LockedQueue :=
  match run.loop with
  | .reading item =>
    if run.channel.done then { run with loop := .waiting }
    else
      let connectionsToSend := run.channel.connections.getByKeys item.recipients
      if connectionsToSend.isEmpty then { run with loop := .waiting }
      else { run with loop := .spawning connectionsToSend }
  | _ => run

def recovered (run : LockedQueue) : LockedQueue :=
  match run.loop with
  | .reading _ => { run with loop := .waiting }
  | _ => run

def spawn (run : LockedQueue) : LockedQueue :=
  match run.loop with
  | .spawning [] => { run with loop := .awaiting }
  | .spawning (conn :: rest) =>
    if run.channel.done then { run with loop := .waiting }
    else { run with loop := .spawning rest, deliveries := run.deliveries ++ [⟨run.taken - 1, conn, .entered⟩] }
  | _ => run

def wait (run : LockedQueue) : LockedQueue :=
  match run.loop with
  | .awaiting =>
    if run.deliveries.any (fun delivery => decide (delivery.number = run.taken - 1)) then run
    else { run with loop := .waiting }
  | _ => run

def nextStage (run : LockedQueue) (stage : DeliveryStage) (ok : Bool) : Option DeliveryStage :=
  match stage with
  | .entered =>
    some (if run.channel.done then .returned else if run.mutex.held then .locking else if ok then .pipeline else .returned)
  | .locking => some (if run.mutex.held then .locking else if ok then .pipeline else .returned)
  | .pipeline => some (if ok then .sending else .returned)
  | .sending => some .returned
  | .returned => none

def advance (run : LockedQueue) (place : Nat) (ok : Bool) : LockedQueue :=
  match run.deliveries[place]? with
  | none => run
  | some delivery =>
    match run.nextStage delivery.stage ok with
    | none => { run with deliveries := run.deliveries.eraseIdx place }
    | some stage => { run with deliveries := run.deliveries.set place { delivery with stage := stage } }

def step (run : LockedQueue) : QueueLabel → LockedQueue
  | .perform op => run.perform op
  | .call call => run.call call
  | .offer sent => run.offer sent
  | .timeout => run.timeout
  | .cancelled => run.cancelled
  | .finish => run.finish
  | .address event audience => run.address event audience
  | .arrive sender sent => run.arrive sender sent
  | .giveUp waiter => run.giveUp waiter
  | .receive => run.receive
  | .stop => run.stop
  | .read => run.read
  | .recovered => run.recovered
  | .spawn => run.spawn
  | .wait => run.wait
  | .advance delivery ok => run.advance delivery ok

def settled (run : LockedQueue) : Bool :=
  run.loop.resting && run.deliveries.all fun delivery => decide (delivery.stage ≠ .entered ∧ delivery.stage ≠ .locking)

-- A call that comes to its select finds room, or it can only be next: nobody waits
-- before it, and no event that is being delivered has still to take the mutex.
def Unhindered (run : LockedQueue) : QueueLabel → Prop
  | .offer _ => run.mutex.offers = true →
      run.queue.length < queueCapacity ∨ run.channel.done = true ∨ run.waiters.isEmpty = true ∧ run.settled = true
  | _ => True

instance decidableUnhindered (run : LockedQueue) (label : QueueLabel) : Decidable (run.Unhindered label) := by
  cases label <;> simp only [Unhindered] <;> infer_instance

structure Clear (run : LockedQueue) : Prop where
  settled : run.mutex.waits = true → run.settled = true
  first : run.mutex.waits = true →
    ∃ item others, run.waiters = ⟨item, true⟩ :: others ∧ ∀ waiter ∈ others, waiter.holds = false
  free : run.mutex.waits = false → ∀ waiter ∈ run.waiters, waiter.holds = false
  kept : run.lost = []

theorem clear_new (channel : Channel) : Clear { channel := channel } :=
  ⟨fun waits => absurd waits Bool.false_ne_true, fun waits => absurd waits Bool.false_ne_true,
    fun _ _ member => absurd member not_mem_nil, rfl⟩

theorem clear_unstuck {run : LockedQueue} (clear : Clear run) : run.stuck = false := by
  cases waits : run.mutex.waits with
  | false => rw [stuck, waits, Bool.false_and]
  | true =>
    have settled := clear.settled waits
    simp only [LockedQueue.settled, Bool.and_eq_true, all_eq_true, decide_eq_true_eq] at settled
    rw [stuck, waits, Bool.true_and, any_eq_false]
    intro delivery member locking
    exact (settled.2 delivery member).2 (of_decide_eq_true locking)

variable {next : LockedQueue}

theorem clear_same {run : LockedQueue} (clear : Clear run) (mutex : next.mutex = run.mutex)
    (loop : next.loop = run.loop) (deliveries : next.deliveries = run.deliveries) (waiters : next.waiters = run.waiters)
    (lost : next.lost = run.lost) : Clear next := by
  refine ⟨?_, ?_, ?_, lost.trans clear.kept⟩
  · intro waits
    rw [mutex] at waits
    rw [LockedQueue.settled, loop, deliveries]
    exact clear.settled waits
  · intro waits
    rw [mutex] at waits
    rw [waiters]
    exact clear.first waits
  · intro waits
    rw [mutex] at waits
    rw [waiters]
    exact clear.free waits

theorem clear_free {run : LockedQueue} (clear : Clear run) (before : run.mutex.waits = false)
    (after : next.mutex.waits = false) (waiters : ∀ waiter ∈ next.waiters, waiter ∈ run.waiters)
    (lost : next.lost = run.lost) : Clear next := by
  refine ⟨?_, ?_, ?_, lost.trans clear.kept⟩
  · intro waits
    rw [after] at waits
    cases waits
  · intro waits
    rw [after] at waits
    cases waits
  · intro _ waiter member
    exact clear.free before waiter (waiters waiter member)

theorem clear_perform {run : LockedQueue} {op : PresenceOp} (clear : Clear run) : Clear (run.perform op) := by
  have done : Clear { run with channel := run.channel.perform op } := clear_same clear rfl rfl rfl rfl rfl
  cases op with
  | channel op =>
    cases op with
    | addUser | removeUser | expired | trackConnectedUser => exact clear
    | close | updateAssigns | receive =>
      simp only [perform]
      split
      · exact clear
      · exact done
    | _ => exact done
  | track | update | unTrack => exact done

theorem clear_call {run : LockedQueue} {call : LockedCall} (clear : Clear run) : Clear (run.call call) := by
  rw [LockedQueue.call]
  split
  · exact clear
  rename_i held
  have before : run.mutex.waits = false := by
    cases mutex : run.mutex with
    | free | offering | finishing => rfl
    | waiting =>
      rw [mutex] at held
      exact absurd rfl held
  split
  · exact clear_same clear rfl rfl rfl rfl rfl
  · exact clear_same clear rfl rfl rfl rfl rfl
  · exact clear_free clear before rfl (fun waiter member => member) rfl

theorem clear_offer {run : LockedQueue} {sent : Bool} (clear : Clear run) (unhindered : run.Unhindered (.offer sent)) :
    Clear (run.offer sent) := by
  cases mutex : run.mutex with
  | free | waiting | finishing => simpa only [offer, mutex] using clear
  | offering item =>
    have before : run.mutex.waits = false := by rw [mutex]; rfl
    simp only [offer, mutex]
    by_cases room : run.takes sent = true
    · rw [if_pos room]
      exact clear_free clear before rfl (fun waiter member => member) rfl
    rw [if_neg room]
    by_cases done : run.channel.done = true
    · rw [if_pos done]
      exact clear_free clear before rfl (fun waiter member => member) rfl
    rw [if_neg done]
    have next : run.waiters.isEmpty = true ∧ run.settled = true := by
      rcases unhindered (by rw [mutex, Mutex.offers]) with short | finished | next
      · rw [takes, decide_eq_true short, Bool.eq_false_iff.mpr done] at room
        simp at room
      · exact absurd finished done
      · exact next
    refine ⟨fun _ => next.2, fun _ => ⟨item, [], ?_, ?_⟩, fun waits => ?_, clear.kept⟩
    · rw [isEmpty_iff.mp next.1, nil_append]
    · intro waiter member
      exact absurd member not_mem_nil
    · cases waits

theorem clear_withdraw {run : LockedQueue} {rest : Rest} (clear : Clear run) : Clear (run.withdraw rest) := by
  refine ⟨fun waits => ?_, fun waits => ?_, fun _ waiter member => ?_, clear.kept⟩
  · cases waits
  · cases waits
  · simpa using (mem_filter.mp member).2

theorem clear_timeout {run : LockedQueue} (clear : Clear run) : Clear run.timeout := by
  rw [timeout]
  split
  · rw [clear_unstuck clear]
    exact clear_withdraw clear
  · exact clear

theorem clear_cancelled {run : LockedQueue} (clear : Clear run) : Clear run.cancelled := by
  rw [cancelled]
  split
  · split
    · exact clear_withdraw clear
    · exact clear
  · exact clear

theorem clear_finish {run : LockedQueue} (clear : Clear run) : Clear run.finish := by
  rw [LockedQueue.finish]
  split
  · rename_i rest mutex
    have before : run.mutex.waits = false := by rw [mutex]; rfl
    exact clear_free clear before rfl (fun waiter member => member) rfl
  · exact clear

theorem clear_address {run : LockedQueue} {event : Event} {audience : Audience} (clear : Clear run) :
    Clear (run.address event audience) := by
  rw [address]
  split
  · exact clear
  · exact clear_same clear rfl rfl rfl rfl rfl

theorem clear_queued {run : LockedQueue} {item : InternalEvent} (clear : Clear run) :
    Clear { run with waiters := run.waiters ++ [⟨item, false⟩] } := by
  refine ⟨clear.settled, fun waits => ?_, fun waits waiter member => ?_, clear.kept⟩
  · obtain ⟨front, others, shape, unheld⟩ := clear.first waits
    refine ⟨front, others ++ [⟨item, false⟩], ?_, ?_⟩
    · rw [shape, cons_append]
    intro waiter member
    rcases mem_append.mp member with early | last
    · exact unheld waiter early
    · rw [mem_singleton.mp last]
  · rcases mem_append.mp member with early | last
    · exact clear.free waits waiter early
    · rw [mem_singleton.mp last]

theorem clear_arrive {run : LockedQueue} {sender : Nat} {sent : Bool} (clear : Clear run) :
    Clear (run.arrive sender sent) := by
  rw [arrive]
  split
  · exact clear
  have gone : Clear { run with senders := run.senders.eraseIdx sender } := clear_same clear rfl rfl rfl rfl rfl
  split
  · exact clear_same clear rfl rfl rfl rfl rfl
  split
  · exact gone
  · exact clear_queued gone

theorem clear_give_up {run : LockedQueue} {place : Nat} (clear : Clear run) : Clear (run.giveUp place) := by
  rw [giveUp]
  split
  · exact clear
  rename_i waiter found
  split
  · exact clear
  rename_i unheld
  refine ⟨clear.settled, fun waits => ?_, fun waits other member => ?_, clear.kept⟩
  · obtain ⟨front, others, shape, rest⟩ := clear.first waits
    rw [shape] at found
    cases place with
    | zero =>
      cases found
      exact absurd rfl unheld
    | succ place =>
      refine ⟨front, others.eraseIdx place, ?_, ?_⟩
      · rw [shape, eraseIdx_cons_succ]
      · intro other member
        exact rest other (mem_of_mem_eraseIdx member)
  · exact clear.free waits other (mem_of_mem_eraseIdx member)

theorem clear_taken {run : LockedQueue} (first : InternalEvent) (waiter : QueueWaiter) (queue : List InternalEvent)
    (waiters : List QueueWaiter) (shape : run.waiters = waiter :: waiters) (clear : Clear run)
    (next : LockedQueue) (rest : Option Rest) (holds : rest.isSome = (waiter.holds && run.mutex.waits))
    (taken : next = { run with
      loop := .reading first
      taken := run.taken + 1
      queue := queue ++ [waiter.item]
      waiters := waiters
      mutex := rest.elim run.mutex Mutex.finishing }) : Clear next := by
  rw [taken]
  cases waits : run.mutex.waits with
  | true =>
    obtain ⟨_, _, front, unheld⟩ := clear.first waits
    rw [front, cons.injEq] at shape
    rw [waits, ← shape.1] at holds
    cases rest with
    | none => cases holds
    | some =>
      refine ⟨fun still => absurd still Bool.false_ne_true, fun still => absurd still Bool.false_ne_true,
        fun _ other member => ?_, clear.kept⟩
      rw [← shape.2] at member
      exact unheld other member
  | false =>
    rw [waits, Bool.and_false] at holds
    cases rest with
    | some => cases holds
    | none =>
      refine clear_free clear waits waits ?_ rfl
      intro other member
      rw [shape]
      exact mem_cons_of_mem waiter member

theorem clear_receive {run : LockedQueue} (clear : Clear run) : Clear run.receive := by
  rw [receive]
  split
  · rename_i first queue loop full
    cases shape : run.waiters with
    | nil =>
      cases waits : run.mutex.waits with
      | true =>
        obtain ⟨_, _, front, _⟩ := clear.first waits
        rw [shape] at front
        cases front
      | false =>
        refine clear_free clear waits waits ?_ rfl
        intro waiter member
        exact absurd member not_mem_nil
    | cons waiter waiters =>
      dsimp only
      cases holds : waiter.holds with
      | false => exact clear_taken first waiter queue waiters shape clear _ none (by rw [holds]; rfl) rfl
      | true =>
        cases mutex : run.mutex with
        | waiting _ rest =>
          exact clear_taken first waiter queue waiters shape clear _ (some rest) (by rw [holds, mutex]; rfl) rfl
        | free | offering | finishing =>
          exact clear_taken first waiter queue waiters shape clear _ none (by rw [holds, mutex]; rfl)
            (by rw [mutex]; rfl)
  · exact clear

theorem resting_of_clear {run : LockedQueue} (clear : Clear run) (waits : run.mutex.waits = true) :
    run.loop.resting = true ∧
      run.deliveries.all (fun delivery => decide (delivery.stage ≠ .entered ∧ delivery.stage ≠ .locking)) = true := by
  have settled := clear.settled waits
  rw [LockedQueue.settled, Bool.and_eq_true] at settled
  exact settled

theorem clear_loop {run : LockedQueue} {loop : QueueLoop} (clear : Clear run)
    (rests : run.loop.resting = true → loop.resting = true) : Clear { run with loop := loop } := by
  refine ⟨fun waits => ?_, clear.first, clear.free, clear.kept⟩
  have settled := resting_of_clear clear waits
  rw [LockedQueue.settled, Bool.and_eq_true]
  exact ⟨rests settled.1, settled.2⟩

theorem clear_stop {run : LockedQueue} (clear : Clear run) : Clear run.stop := by
  rw [stop]
  split
  · split
    · exact clear_loop clear (fun _ => rfl)
    · exact clear
  · exact clear

theorem clear_read {run : LockedQueue} (clear : Clear run) : Clear run.read := by
  rw [read]
  split
  · rename_i item loop
    have rests : ∀ next : QueueLoop, run.loop.resting = true → next.resting = true := by
      intro next resting
      rw [loop] at resting
      cases resting
    split
    · exact clear_loop clear (rests _)
    dsimp only
    split
    · exact clear_loop clear (rests _)
    · exact clear_loop clear (rests _)
  · exact clear

theorem clear_recovered {run : LockedQueue} (clear : Clear run) : Clear run.recovered := by
  rw [recovered]
  split
  · exact clear_loop clear (fun _ => rfl)
  · exact clear

theorem clear_spawn {run : LockedQueue} (clear : Clear run) : Clear run.spawn := by
  rw [spawn]
  split
  · exact clear_loop clear (fun _ => rfl)
  · rename_i conn rest loop
    split
    · exact clear_loop clear (fun _ => rfl)
    cases waits : run.mutex.waits with
    | true =>
      have settled := resting_of_clear clear waits
      rw [loop] at settled
      cases settled.1
    | false => exact clear_free clear waits waits (fun waiter member => member) rfl
  · exact clear

theorem clear_wait {run : LockedQueue} (clear : Clear run) : Clear run.wait := by
  rw [LockedQueue.wait]
  split
  · split
    · exact clear
    · exact clear_loop clear (fun _ => rfl)
  · exact clear

theorem next_stage_settled {run : LockedQueue} {stage next : DeliveryStage} {ok : Bool}
    (settled : stage ≠ .entered ∧ stage ≠ .locking) (moved : run.nextStage stage ok = some next) :
    next ≠ .entered ∧ next ≠ .locking := by
  cases stage with
  | entered => exact absurd rfl settled.1
  | locking => exact absurd rfl settled.2
  | pipeline =>
    cases moved
    cases ok <;> decide
  | sending =>
    cases moved
    decide
  | returned => cases moved

theorem clear_deliveries {run : LockedQueue} {deliveries : List QueueDelivery} (clear : Clear run)
    (settled : (∀ delivery ∈ run.deliveries, delivery.stage ≠ .entered ∧ delivery.stage ≠ .locking) →
      ∀ delivery ∈ deliveries, delivery.stage ≠ .entered ∧ delivery.stage ≠ .locking) :
    Clear { run with deliveries := deliveries } := by
  refine ⟨fun waits => ?_, clear.first, clear.free, clear.kept⟩
  have before := resting_of_clear clear waits
  simp only [all_eq_true, decide_eq_true_eq] at before
  simp only [LockedQueue.settled, Bool.and_eq_true, all_eq_true, decide_eq_true_eq]
  exact ⟨before.1, settled before.2⟩

theorem clear_advance {run : LockedQueue} {place : Nat} {ok : Bool} (clear : Clear run) :
    Clear (run.advance place ok) := by
  rw [advance]
  split
  · exact clear
  rename_i delivery found
  split
  · apply clear_deliveries clear
    intro settled other member
    exact settled other (mem_of_mem_eraseIdx member)
  rename_i stage moved
  apply clear_deliveries clear
  intro settled other member
  rcases mem_or_eq_of_mem_set member with before | changed
  · exact settled other before
  rw [changed]
  exact next_stage_settled (settled delivery (mem_of_getElem? found)) moved

theorem clear_step (run : LockedQueue) (label : QueueLabel) (clear : Clear run) (unhindered : run.Unhindered label) :
    Clear (run.step label) := by
  cases label with
  | perform => exact clear_perform clear
  | call => exact clear_call clear
  | offer => exact clear_offer clear unhindered
  | timeout => exact clear_timeout clear
  | cancelled => exact clear_cancelled clear
  | finish => exact clear_finish clear
  | address => exact clear_address clear
  | arrive => exact clear_arrive clear
  | giveUp => exact clear_give_up clear
  | receive => exact clear_receive clear
  | stop => exact clear_stop clear
  | read => exact clear_read clear
  | recovered => exact clear_recovered clear
  | spawn => exact clear_spawn clear
  | wait => exact clear_wait clear
  | advance => exact clear_advance clear

def Drains (run : LockedQueue) : Prop := run.stuck = false ∧ run.lost = []

theorem dispatcher_drains (name : String) (nodeId : NodeId) (distributed onDestroy : Bool) (heartbeatTimeout : Nat)
    (labels : List QueueLabel)
    (follows : Follows step Unhindered { channel := newChannel name nodeId distributed onDestroy heartbeatTimeout } labels) :
    Always step Drains { channel := newChannel name nodeId distributed onDestroy heartbeatTimeout } labels := by
  apply always_mono step Clear Drains (fun run clear => ⟨clear_unstuck clear, clear.kept⟩)
  exact always_of_follows step Unhindered Clear clear_step _ (clear_new _) follows

def tracking (userId : UserId) (serial : Nat) : List QueueLabel :=
  [.call (.addUser ⟨userId, serial, none⟩), .call (.trackConnectedUser userId (.object [])), .offer true, .finish]

def removing : List QueueLabel :=
  tracking "a" 0 ++ tracking "b" 1 ++ [.receive, .read, .call (.removeUser "b" "gone"), .offer true, .finish]

theorem removal_drains :
    Follows step Unhindered { channel := newChannel "room" "node-1" false true 90000 } removing ∧
      Always step Drains { channel := newChannel "room" "node-1" false true 90000 } removing := by
  have follows : Follows step Unhindered { channel := newChannel "room" "node-1" false true 90000 } removing := by
    decide +kernel
  exact ⟨follows, dispatcher_drains "room" "node-1" false true 90000 removing follows⟩

def sending : List QueueLabel :=
  [.address ⟨.broadcast, "room", "", .null, "news", "node-1", ["a"], "", ""⟩ .all, .arrive 0 true]

def jam : List QueueLabel :=
  tracking "a" 0 ++ tracking "b" 1 ++ (List.replicate 126 sending).flatten ++ [.receive, .read, .spawn] ++ sending ++
    [.call (.removeUser "b" "gone"), .offer true, .advance 0 true]

theorem removal_jams :
    ¬ Always step Drains { channel := newChannel "room" "node-1" false true 90000 } jam ∧
      (run step { channel := newChannel "room" "node-1" false true 90000 } (jam ++ [.timeout])).lost.length = 1 := by
  refine ⟨fun always => ?_, by decide +kernel⟩
  have drains := (always_run step _ always).1
  have jams : (run step { channel := newChannel "room" "node-1" false true 90000 } jam).stuck = true := by
    decide +kernel
  rw [drains] at jams
  cases jams

end LockedQueue

end PondSocket.Go
