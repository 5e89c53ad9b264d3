import PondSocket.Library.Run
import PondSocket.Rust.Channel

namespace PondSocket.Rust

open Library List
open Js (UserId NodeId)

-- Where a spawned delivery stands: before it has read the connections, or with
-- the transport that it found there.
inductive DeliverPhase where
  | looking
  | sending (transport : Transport)

-- item is the place of the event in the order of the dispatch queue.
structure DeliverTask where
  item : Nat
  event : Event
  recipientId : UserId
  phase : DeliverPhase

def DeliverTask.key (task : DeliverTask) : Nat × UserId := (task.item, task.recipientId)

structure Sent where
  recipientId : UserId
  transport : Transport
  item : Nat
  event : Event

-- The dispatch loop of a channel with what it has spawned. taken counts the items
-- it has received, current is the item at hand with the recipients still to come.
structure Delivery where
  channel : Channel
  permits : Nat
  taken : Nat
  looping : Bool
  current : Option DispatchItem
  tasks : List DeliverTask
  sent : List Sent

-- What happens next: something is put into the queue, the connections or the
-- active flag change, the loop is aborted, receives an item or spawns a delivery,
-- or the delivery at a place of the list goes on. One that found a transport
-- ends without sending where the transport is inactive, the user is gone or a
-- handler fails or blocks.
inductive DeliveryStep where
  | enqueue (room : Bool) (item : DispatchItem)
  | connected (connections : OrderedMap UserId Transport)
  | activity (active : Bool)
  | abort
  | receive
  | spawn
  | look (place : Nat)
  | skip (place : Nat)
  | send (place : Nat)

namespace Delivery

variable (delivery : Delivery)

variable (name endpointPath : String) (nodeId : NodeId) (pubsub : Bool) (dispatchConcurrency : Nat)
  (label : DeliveryStep) (place : Nat)

def start (name endpointPath : String) (nodeId : NodeId) (pubsub : Bool) (dispatchConcurrency : Nat) : Delivery where
  channel := { Channel.new name endpointPath nodeId pubsub with active := true }
  permits := max dispatchConcurrency 1
  taken := 0
  looping := true
  current := none
  tasks := []
  sent := []

def receive (delivery : Delivery) : Delivery :=
  match delivery.current, delivery.channel.dispatched[delivery.taken]? with
  | none, some item =>
    if delivery.looping = false then delivery
    else if delivery.channel.active = false then { delivery with taken := delivery.taken + 1, looping := false }
    else { delivery with taken := delivery.taken + 1, current := some item }
  | _, _ => delivery

def spawn (delivery : Delivery) : Delivery :=
  match delivery.current with
  | none => delivery
  | some ⟨_, []⟩ => { delivery with current := none }
  | some ⟨event, recipientId :: rest⟩ =>
    if delivery.tasks.length < delivery.permits then
      { delivery with
        tasks := delivery.tasks ++ [⟨delivery.taken - 1, event, recipientId, .looking⟩]
        current := some ⟨event, rest⟩ }
    else delivery

def look (delivery : Delivery) (place : Nat) : Delivery :=
  match delivery.tasks[place]? with
  | some task =>
    match task.phase with
    | .looking =>
      { delivery with
        tasks := match delivery.channel.connections.get? task.recipientId with
          | none => delivery.tasks.eraseIdx place
          | some transport => delivery.tasks.set place { task with phase := .sending transport } }
    | .sending _ => delivery
  | none => delivery

def skip (delivery : Delivery) (place : Nat) : Delivery := { delivery with tasks := delivery.tasks.eraseIdx place }

def send (delivery : Delivery) (place : Nat) : Delivery :=
  match delivery.tasks[place]? with
  | some task =>
    match task.phase with
    | .looking => delivery
    | .sending transport =>
      { delivery with
        tasks := delivery.tasks.eraseIdx place
        sent := delivery.sent ++ [⟨task.recipientId, transport, task.item, task.event⟩] }
  | none => delivery

def step (delivery : Delivery) : DeliveryStep → Delivery
  | .enqueue room item => { delivery with channel := (delivery.channel.enqueueDispatch room item).1 }
  | .connected connections => { delivery with channel := { delivery.channel with connections := connections } }
  | .activity active => { delivery with channel := { delivery.channel with active := active } }
  | .abort => { delivery with looping := false, current := none }
  | .receive => delivery.receive
  | .spawn => delivery.spawn
  | .look place => delivery.look place
  | .skip place => delivery.skip place
  | .send place => delivery.send place

-- What each recipient was sent is in the order of the queue.
def Fifo (delivery : Delivery) : Prop :=
  delivery.sent.Pairwise fun before after => before.recipientId = after.recipientId → before.item ≤ after.item

-- A delivery sends only after the older ones to its recipient have ended.
def InTurn (delivery : Delivery) : DeliveryStep → Prop
  | .send place =>
    ∀ (older : Nat) (first second : DeliverTask), older < place → delivery.tasks[older]? = some first →
      delivery.tasks[place]? = some second → first.recipientId ≠ second.recipientId
  | _ => True

structure Ordered (delivery : Delivery) : Prop where
  sorted : delivery.tasks.Pairwise fun before after => before.item ≤ after.item
  begun : ∀ task ∈ delivery.tasks, task.item < delivery.taken
  current : delivery.current.isSome → 0 < delivery.taken
  logged : ∀ entry ∈ delivery.sent, entry.item < delivery.taken
  behind : ∀ entry ∈ delivery.sent, ∀ task ∈ delivery.tasks, entry.recipientId = task.recipientId →
    entry.item ≤ task.item
  fifo : delivery.Fifo

theorem ordered_tasks {tasks : List DeliverTask} (ordered : delivery.Ordered)
    (kept : (tasks.map DeliverTask.key).Sublist (delivery.tasks.map DeliverTask.key)) :
    Ordered { delivery with tasks := tasks } := by
  have old : ∀ task ∈ tasks, ∃ before ∈ delivery.tasks, before.key = task.key := by
    intro task member
    exact mem_map.mp (kept.subset (mem_map_of_mem member))
  have keys : (delivery.tasks.map DeliverTask.key).Pairwise fun before after => before.1 ≤ after.1 := by
    rw [pairwise_map]
    exact ordered.sorted
  have sorted := keys.sublist kept
  rw [pairwise_map] at sorted
  refine ⟨sorted, fun task member => ?_, ordered.current, ordered.logged,
    fun entry listed task member same => ?_, ordered.fifo⟩
  · obtain ⟨before, there, key⟩ := old task member
    have item : before.item = task.item := congrArg Prod.fst key
    exact item ▸ ordered.begun before there
  obtain ⟨before, there, key⟩ := old task member
  have item : before.item = task.item := congrArg Prod.fst key
  have recipient : before.recipientId = task.recipientId := congrArg Prod.snd key
  exact item ▸ ordered.behind entry listed before there (same.trans recipient.symm)

theorem ordered_erase (ordered : delivery.Ordered) :
    Ordered { delivery with tasks := delivery.tasks.eraseIdx place } :=
  ordered_tasks delivery ordered ((eraseIdx_sublist _ _).map _)

theorem ordered_receive (ordered : delivery.Ordered) : delivery.receive.Ordered := by
  have counted : ∀ item, item < delivery.taken → item < delivery.taken + 1 := fun item => Nat.lt_succ_of_lt
  simp only [receive]
  split
  · split
    · exact ordered
    · split
      · exact ⟨ordered.sorted, fun task member => counted _ (ordered.begun task member), fun _ => Nat.succ_pos _,
          fun entry member => counted _ (ordered.logged entry member), ordered.behind, ordered.fifo⟩
      · exact ⟨ordered.sorted, fun task member => counted _ (ordered.begun task member), fun _ => Nat.succ_pos _,
          fun entry member => counted _ (ordered.logged entry member), ordered.behind, ordered.fifo⟩
  · exact ordered

theorem ordered_spawn (ordered : delivery.Ordered) : delivery.spawn.Ordered := by
  cases current : delivery.current with
  | none =>
    simp only [spawn, current]
    exact ordered
  | some item =>
    obtain ⟨_, recipients⟩ := item
    have positive : 0 < delivery.taken := ordered.current (by rw [current]; rfl)
    cases recipients with
    | nil =>
      simp only [spawn, current]
      exact ⟨ordered.sorted, ordered.begun, fun _ => positive, ordered.logged, ordered.behind, ordered.fifo⟩
    | cons =>
      simp only [spawn, current]
      split
      · refine ⟨?_, fun task member => ?_, fun _ => positive, ordered.logged, fun entry listed task member same => ?_,
          ordered.fifo⟩
        · rw [pairwise_append]
          refine ⟨ordered.sorted, pairwise_singleton _ _, fun task member last same => ?_⟩
          rw [mem_singleton.mp same]
          exact Nat.le_sub_one_of_lt (ordered.begun task member)
        · rcases mem_append.mp member with old | new
          · exact ordered.begun task old
          · rw [mem_singleton.mp new]
            exact Nat.sub_lt positive (by decide)
        · rcases mem_append.mp member with old | new
          · exact ordered.behind entry listed task old same
          · rw [mem_singleton.mp new]
            exact Nat.le_sub_one_of_lt (ordered.logged entry listed)
      · exact ordered

theorem ordered_look (ordered : delivery.Ordered) :
    (delivery.look place).Ordered := by
  cases there : delivery.tasks[place]? with
  | none =>
    simp only [look, there]
    exact ordered
  | some task =>
    cases phase : task.phase with
    | sending =>
      simp only [look, there, phase]
      exact ordered
    | looking =>
      simp only [look, there, phase]
      apply ordered_tasks delivery ordered
      cases delivery.channel.connections.get? task.recipientId with
      | none => exact (eraseIdx_sublist _ _).map _
      | some transport =>
        obtain ⟨whole, _, replaced⟩ := split_place delivery.tasks place task there
        have same : (delivery.tasks.set place { task with phase := .sending transport }).map DeliverTask.key =
            delivery.tasks.map DeliverTask.key := by
          rw [replaced]
          conv => rhs; rw [whole]
          simp [DeliverTask.key]
        rw [same]

theorem ordered_send (ordered : delivery.Ordered)
    (turn : delivery.InTurn (.send place)) : (delivery.send place).Ordered := by
  cases there : delivery.tasks[place]? with
  | none =>
    simp only [send, there]
    exact ordered
  | some task =>
    cases phase : task.phase with
    | looking =>
      simp only [send, there, phase]
      exact ordered
    | sending =>
      simp only [send, there, phase]
      have member : task ∈ delivery.tasks := mem_of_getElem? there
      have left := ordered_erase delivery place ordered
      obtain ⟨whole, erased, _⟩ := split_place delivery.tasks place task there
      have sorted := ordered.sorted
      rw [whole, pairwise_append, pairwise_cons] at sorted
      refine ⟨left.sorted, left.begun, left.current, fun entry listed => ?_, fun entry listed other stays same => ?_, ?_⟩
      · rcases mem_append.mp listed with old | new
        · exact ordered.logged entry old
        · rw [mem_singleton.mp new]
          exact ordered.begun task member
      · rcases mem_append.mp listed with old | new
        · exact left.behind entry old other stays same
        · rw [mem_singleton.mp new] at same ⊢
          rw [erased] at stays
          rcases mem_append.mp stays with before | after
          · -- An older delivery to the same recipient is not there any more.
            obtain ⟨older, inside, found⟩ := mem_iff_getElem.mp before
            have early : older < place := Nat.lt_of_lt_of_le inside (length_take_le place _)
            have standing : delivery.tasks[older]? = some other := by
              rw [← getElem?_take_of_lt early, getElem?_eq_getElem inside, found]
            exact absurd same.symm (turn older other task early standing there)
          · exact sorted.2.1.1 other after
      · rw [Fifo, pairwise_append]
        refine ⟨ordered.fifo, pairwise_singleton _ _, fun entry listed last new same => ?_⟩
        rw [mem_singleton.mp new] at same ⊢
        exact ordered.behind entry listed task member same

theorem ordered_step (ordered : delivery.Ordered) (turn : delivery.InTurn label) : (delivery.step label).Ordered := by
  obtain ⟨sorted, begun, current, logged, behind, fifo⟩ := ordered
  cases label with
  | enqueue | connected | activity => exact ⟨sorted, begun, current, logged, behind, fifo⟩
  | abort => exact ⟨sorted, begun, fun some => (by cases some), logged, behind, fifo⟩
  | receive => exact ordered_receive delivery ⟨sorted, begun, current, logged, behind, fifo⟩
  | spawn => exact ordered_spawn delivery ⟨sorted, begun, current, logged, behind, fifo⟩
  | look place => exact ordered_look delivery place ⟨sorted, begun, current, logged, behind, fifo⟩
  | skip place => exact ordered_erase delivery place ⟨sorted, begun, current, logged, behind, fifo⟩
  | send place => exact ordered_send delivery place ⟨sorted, begun, current, logged, behind, fifo⟩ turn

variable {endpointPath nodeId pubsub dispatchConcurrency}

theorem ordered_start :
    (start name endpointPath nodeId pubsub dispatchConcurrency).Ordered where
  sorted := List.Pairwise.nil
  begun := fun _ member => absurd member not_mem_nil
  current := fun some => absurd some Bool.false_ne_true
  logged := fun _ member => absurd member not_mem_nil
  behind := fun _ member => absurd member not_mem_nil
  fifo := List.Pairwise.nil

def Bounded (delivery : Delivery) : Prop := delivery.permits ≤ 1 ∧ delivery.tasks.length ≤ delivery.permits

theorem bounded_step (bounded : delivery.Bounded) :
    (delivery.step label).Bounded := by
  obtain ⟨few, within⟩ := bounded
  have erased : ∀ place, (delivery.tasks.eraseIdx place).length ≤ delivery.permits :=
    fun place => Nat.le_trans (length_eraseIdx_le _ _) within
  cases label with
  | enqueue | connected | activity | abort => exact ⟨few, within⟩
  | receive =>
    simp only [step, receive]
    split
    · split
      · exact ⟨few, within⟩
      · split <;> exact ⟨few, within⟩
    · exact ⟨few, within⟩
  | spawn =>
    simp only [step, spawn]
    split
    · exact ⟨few, within⟩
    · exact ⟨few, within⟩
    · split
      · rename_i room
        exact ⟨few, by simpa using Nat.succ_le_of_lt room⟩
      · exact ⟨few, within⟩
  | look place =>
    simp only [step, look]
    split
    · split
      · refine ⟨few, ?_⟩
        split
        · exact erased place
        · rw [length_set]
          exact within
      · exact ⟨few, within⟩
    · exact ⟨few, within⟩
  | skip place => exact ⟨few, erased place⟩
  | send place =>
    simp only [step, send]
    split
    · split
      · exact ⟨few, within⟩
      · exact ⟨few, erased place⟩
    · exact ⟨few, within⟩

theorem turn_of_bounded (bounded : delivery.Bounded) :
    delivery.InTurn label := by
  cases label with
  | send =>
    intro older first second early _ there
    obtain ⟨_, _⟩ := List.getElem?_eq_some_iff.mp there
    have few := bounded.1
    have within := bounded.2
    omega
  | _ => trivial

variable {labels : List DeliveryStep}

theorem fifo_in_turn (turn : Follows step InTurn (start name endpointPath nodeId pubsub dispatchConcurrency) labels) :
    Always step Fifo (start name endpointPath nodeId pubsub dispatchConcurrency) labels :=
  always_mono step Ordered Fifo (fun _ ordered => ordered.fifo) _ labels
    (always_of_follows step InTurn Ordered ordered_step _ (ordered_start _) turn)

theorem turn_of_one (one : dispatchConcurrency ≤ 1) :
    Follows step InTurn (start name endpointPath nodeId pubsub dispatchConcurrency) labels := by
  have bounded : (start name endpointPath nodeId pubsub dispatchConcurrency).Bounded :=
    ⟨Nat.max_le.mpr ⟨one, Nat.le_refl 1⟩, Nat.zero_le _⟩
  exact follows_of_inv step (fun _ _ => True) InTurn Bounded (fun delivery label here _ => bounded_step delivery label here)
    (fun delivery label here _ => turn_of_bounded delivery label here) _ labels bounded
    (follows_all step _ _ labels fun _ _ => trivial)

def deliveryEvent (name : String) : Event := Event.new "BROADCAST" "/room" "id" name .null

def overtaking : List DeliveryStep :=
  [.connected (OrderedMap.empty.set "u" ⟨"u", 0⟩), .enqueue true ⟨deliveryEvent "first", ["u"]⟩,
    .enqueue true ⟨deliveryEvent "second", ["u"]⟩, .receive, .spawn, .spawn, .receive, .spawn, .look 0, .look 1,
    .send 1, .send 0]

theorem overtaken (several : 1 < dispatchConcurrency) :
    ¬ (run step (start name endpointPath nodeId pubsub dispatchConcurrency) overtaking).Fifo := by
  have one : 0 < max dispatchConcurrency 1 := by omega
  have two : 1 < max dispatchConcurrency 1 := by omega
  simp [run, overtaking, step, start, receive, spawn, look, send, Channel.new, Channel.enqueueDispatch, one, two, Fifo]

-- Each recipient is sent its events in the order of the queue in every schedule
-- exactly where one delivery runs at a time; with more of them, in every schedule
-- in which none sends before an older one to its recipient has ended.
theorem fifo_iff (name endpointPath : String) (nodeId : NodeId) (pubsub : Bool) (dispatchConcurrency : Nat) :
    ((∀ labels, Always step Fifo (start name endpointPath nodeId pubsub dispatchConcurrency) labels) ↔
      dispatchConcurrency ≤ 1) ∧
      ∀ labels, Follows step InTurn (start name endpointPath nodeId pubsub dispatchConcurrency) labels →
        Always step Fifo (start name endpointPath nodeId pubsub dispatchConcurrency) labels := by
  refine ⟨⟨fun always => ?_, fun one labels => ?_⟩, fun labels turn => ?_⟩
  · by_contra several
    exact overtaken name (Nat.lt_of_not_le several) (always_run step _ (always overtaking))
  · exact fifo_in_turn _ (turn_of_one _ one)
  · exact fifo_in_turn _ turn

theorem one_at_a_time_in_order : Always step Fifo (start "/room" "/ws" "a" true 1) overtaking :=
  (fifo_iff "/room" "/ws" "a" true 1).1.mpr (Nat.le_refl 1) overtaking

theorem second_before_first :
    (run step (start "/room" "/ws" "a" true 32) overtaking).sent.map (fun entry => (entry.recipientId, entry.item)) =
        [("u", 1), ("u", 0)] ∧
      ¬ Always step Fifo (start "/room" "/ws" "a" true 32) overtaking := by
  refine ⟨by decide, fun always => ?_⟩
  exact overtaken "/room" (by decide) (always_run step _ always)

end Delivery

end PondSocket.Rust
