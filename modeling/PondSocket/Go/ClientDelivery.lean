import PondSocket.Library.Run
import PondSocket.Go.ClientOnce

namespace PondSocket.Go.Client

open Library List Feed ServerEvent
open Js (ChannelState)

namespace ClientRun

variable (name : String) (feed : Feed) (run : ClientRun)

variable {place : Nat}

def DeliveredOnce (run : ClientRun) : Prop :=
  ∀ serial ∈ run.feed.joined, run.feed.put.count serial ≤ 1 ∧
    ∀ listener ∈ run.feed.listeners, listener.seen.count serial ≤ 1

-- An event of the joined channel finds one subscription of it, or none when the client
-- surfaces the event itself.
def Single (run : ClientRun) : ClientStep → Prop
  | .broadcast action event channelName => run.feed.sending = none → run.link.state = .joined →
      channelName = run.name →
        run.feed.subscriptions.length +
          weigh (ServerEvent.surfaces ⟨run.feed.next, action, event, channelName⟩ run.name) ≤ 1
  | _ => True

structure Delivering (run : ClientRun) : Prop where
  fresh : ∀ serial, run.feed.next ≤ serial → run.feed.copies run.name serial = 0
  below : ∀ serial ∈ run.feed.joined, serial < run.feed.next
  once : ∀ serial ∈ run.feed.joined, run.feed.copies run.name serial ≤ 1
  heard : run.feed.Heard

theorem delivering_new : (new name).Delivering := by
  refine ⟨fun _ _ => rfl, ?_, ?_, ?_, ?_, ?_⟩
  · exact fun _ member => nomatch member
  · exact fun _ member => nomatch member
  · exact fun _ _ same => nomatch same
  · exact fun _ => Nat.le_refl _
  · exact fun _ _ there => nomatch there

theorem delivering_once (delivering : run.Delivering) : run.DeliveredOnce := by
  intro serial member
  have put : run.feed.put.count serial ≤ 1 := by
    have all := delivering.once serial member
    simp only [Feed.copies] at all
    omega
  refine ⟨put, ?_⟩
  intro listener held
  obtain ⟨place, there⟩ := mem_iff_getElem?.mp held
  have heard := delivering.heard.heard place listener there serial
  simp only [heardCopies, Listener.copies] at heard
  omega

structure Fewer (name : String) (feed after : Feed) : Prop where
  counted : after.next = feed.next
  joined : after.joined = feed.joined
  copies : ∀ serial, after.copies name serial ≤ feed.copies name serial
  heard : feed.Heard → after.Heard

theorem delivering_fewer (run after : ClientRun) (name : after.name = run.name)
    (fewer : Fewer run.name run.feed after.feed) (delivering : run.Delivering) : after.Delivering := by
  refine ⟨?_, ?_, ?_, fewer.heard delivering.heard⟩
  · rw [fewer.counted, name]
    intro serial later
    have none' := delivering.fresh serial later
    have less := fewer.copies serial
    omega
  · rw [fewer.joined, fewer.counted]
    exact delivering.below
  · rw [fewer.joined, name]
    exact fun serial member => (fewer.copies serial).trans (delivering.once serial member)

theorem fewer_same : Fewer name feed feed :=
  ⟨rfl, rfl, fun _ => Nat.le_refl _, fun heard => heard⟩

variable {feed}

theorem fewer_send : Fewer name feed (feed.send place) := by
  have frame : (feed.send place).next = feed.next ∧ (feed.send place).joined = feed.joined ∧
      (feed.send place).queue = feed.queue ∧ (feed.send place).put = feed.put ∧
        (feed.send place).offering = feed.offering ∧ (feed.send place).listeners = feed.listeners := by
    simp only [send]
    split
    · exact ⟨rfl, rfl, rfl, rfl, rfl, rfl⟩
    · exact ⟨rfl, rfl, rfl, rfl, rfl, rfl⟩
    · split
      · exact ⟨rfl, rfl, rfl, rfl, rfl, rfl⟩
      · split <;> exact ⟨rfl, rfl, rfl, rfl, rfl, rfl⟩
  obtain ⟨next, joined, queue, put, offering, listeners⟩ := frame
  exact ⟨next, joined, fun serial => feed.copies_send name serial place, feed.heard_same queue put offering listeners⟩

variable {event : ServerEvent}

theorem enqueue_frame : (feed.enqueue event).next = feed.next ∧ (feed.enqueue event).joined = feed.joined := by
  simp only [enqueue]
  split
  · exact ⟨rfl, rfl⟩
  · exact ⟨rfl, rfl⟩

theorem fewer_enqueue (stage : feed.stage = .surfacing event) :
    Fewer name feed ({ feed with stage := .waiting }.enqueue event) := by
  obtain ⟨counted, joined⟩ := enqueue_frame
  refine ⟨counted, joined, ?_, ?_⟩
  · intro serial
    have put := copies_enqueue { feed with stage := .waiting } name serial event
    have moved : Feed.copies name serial { feed with stage := .waiting } + weigh (event.is serial) =
        feed.copies name serial := by
      simp only [Feed.copies, sendingCopies, InitStage.copies, stage]
      omega
    omega
  · exact fun heard => heard_enqueue _ (feed.heard_same rfl rfl rfl rfl heard)

theorem fewer_receive : Fewer name feed (feed.receive place) := by
  have frame : ∃ forwarders, feed.receive place = { feed with forwarders := forwarders } := by
    simp only [receive]
    split
    · exact ⟨_, rfl⟩
    split
    · exact ⟨_, rfl⟩
    · exact ⟨_, rfl⟩
  refine ⟨?_, ?_, fun serial => Nat.le_of_eq (feed.copies_receive name serial place), ?_⟩
  · obtain ⟨forwarders, same⟩ := frame
    rw [same]
  · obtain ⟨forwarders, same⟩ := frame
    rw [same]
  · obtain ⟨_, same⟩ := frame
    rw [same]
    exact feed.heard_same rfl rfl rfl rfl

theorem fewer_forward {joined : Bool} {place : Nat} :
    Fewer name feed (feed.forward name joined place) := by
  have frame : (feed.forward name joined place).next = feed.next ∧ (feed.forward name joined place).joined = feed.joined ∧
      (feed.Heard → (feed.forward name joined place).Heard) := by
    simp only [forward]
    split
    · exact ⟨rfl, rfl, id⟩
    split
    · exact ⟨rfl, rfl, id⟩
    split
    · refine ⟨enqueue_frame.1, enqueue_frame.2, ?_⟩
      exact fun heard => heard_enqueue _ (feed.heard_same rfl rfl rfl rfl heard)
    · exact ⟨rfl, rfl, feed.heard_same rfl rfl rfl rfl⟩
  exact ⟨frame.1, frame.2.1, fun serial => feed.copies_forward name, frame.2.2⟩

theorem fewer_listeners (feed after : Feed) (frame : after.next = feed.next ∧ after.joined = feed.joined ∧
      ∀ serial, after.copies name serial = feed.copies name serial)
    (heard : feed.Heard → after.Heard) : Fewer name feed after :=
  ⟨frame.1, frame.2.1, fun serial => Nat.le_of_eq (frame.2.2 serial), heard⟩

theorem fewer_deliver : Fewer name feed feed.deliver := by
  apply fewer_listeners name feed feed.deliver _ feed.heard_deliver
  simp only [deliver]
  split
  · exact ⟨rfl, rfl, fun _ => rfl⟩
  · exact ⟨rfl, rfl, fun _ => rfl⟩

theorem fewer_offer : Fewer name feed (feed.offerNext place) := by
  apply fewer_listeners name feed (feed.offerNext place) _ feed.heard_offer
  simp only [offerNext]
  split
  · exact ⟨rfl, rfl, fun _ => rfl⟩
  · exact ⟨rfl, rfl, fun _ => rfl⟩
  · split
    · exact ⟨rfl, rfl, fun _ => rfl⟩
    · exact ⟨rfl, rfl, fun _ => rfl⟩

theorem fewer_hear : Fewer name feed (feed.hear place) := by
  apply fewer_listeners name feed (feed.hear place) _ feed.heard_hear
  simp only [hear]
  split
  · exact ⟨rfl, rfl, fun _ => rfl⟩
  split
  · exact ⟨rfl, rfl, fun _ => rfl⟩
  · exact ⟨rfl, rfl, fun _ => rfl⟩

variable {stage : InitStage}

theorem fewer_stage (same : ∀ serial, stage.copies serial ≤ feed.stage.copies serial) :
    Fewer name feed { feed with stage := stage } := by
  refine ⟨rfl, rfl, ?_, feed.heard_same rfl rfl rfl rfl⟩
  intro serial
  have less := same serial
  simp only [Feed.copies, sendingCopies]
  omega

theorem fewer_settle {subscription : Subscription} :
    Fewer name feed (feed.settle place subscription) :=
  ⟨rfl, rfl, fun serial => feed.copies_settle name serial place, feed.heard_same rfl rfl rfl rfl⟩

variable {rest : List ServerEvent}

theorem fewer_taken (inbox : feed.inbox = event :: rest) : Fewer name feed { feed with inbox := rest } := by
  refine ⟨rfl, rfl, ?_, feed.heard_same rfl rfl rfl rfl⟩
  intro serial
  simp only [Feed.copies, sendingCopies, inbox, countP_cons]
  omega

theorem fewer_surfaced (inbox : feed.inbox = event :: rest) (surfaces : event.surfaces name = true)
    (its : ∀ serial, stage.copies serial ≤ weigh (event.is serial)) :
    Fewer name feed { feed with inbox := rest, stage := stage } := by
  refine ⟨rfl, rfl, ?_, feed.heard_same rfl rfl rfl rfl⟩
  intro serial
  have less := its serial
  simp only [Feed.copies, sendingCopies, inbox, countP_cons, surfaces, Bool.and_true, weigh] at less ⊢
  omega

theorem handle_fewer (inbox : run.feed.inbox = event :: rest) (stage : run.feed.stage = .waiting) :
    (handle { run with feed := { run.feed with inbox := rest } } event).name = run.name ∧
      Fewer run.name run.feed (handle { run with feed := { run.feed with inbox := rest } } event).feed := by
  have taken := fewer_taken run.name inbox
  simp only [handle]
  split
  · split
    · refine ⟨rfl, rfl, rfl, ?_, run.feed.heard_same rfl rfl rfl rfl⟩
      intro serial
      rw [copies_subscribe]
      · exact taken.copies serial
      · simp [InitStage.copies, stage]
    · exact ⟨rfl, taken⟩
  · split
    · split
      · exact ⟨rfl, taken⟩
      · exact ⟨rfl, taken⟩
    · split
      · rename_i named
        split
        · rename_i its
          refine ⟨rfl, fewer_surfaced run.name inbox ?_ fun _ => Nat.le_refl _⟩
          simp only [surfaces, its.1, its.2.2, decide_true, Bool.and_true, decide_eq_true_eq]
          exact named.imp_right .inl
        · exact ⟨rfl, taken⟩
      · split
        · rename_i named
          split
          · rename_i its
            refine ⟨rfl, fewer_surfaced run.name inbox ?_ fun _ => Nat.le_refl _⟩
            simp only [surfaces, its.1, its.2.2, decide_true, Bool.and_true, decide_eq_true_eq]
            exact .inr (.inr named)
          · exact ⟨rfl, taken⟩
        · exact ⟨rfl, taken⟩

theorem init_fewer : run.initStep.name = run.name ∧ Fewer run.name run.feed run.initStep.feed := by
  simp only [initStep]
  cases stage : run.feed.stage with
  | waiting =>
    cases inbox : run.feed.inbox with
    | nil => exact ⟨rfl, fewer_same run.name run.feed⟩
    | cons =>
      have handled := handle_fewer run inbox stage
      dsimp only at handled
      rw [stage] at handled
      exact handled
  | subscribed =>
    dsimp only
    split
    · exact ⟨rfl, fewer_stage run.name fun _ => Nat.zero_le _⟩
    · exact ⟨rfl, fewer_settle run.name⟩
  | acknowledging => exact ⟨rfl, fewer_settle run.name⟩
  | deciding =>
    dsimp only
    split
    · refine ⟨rfl, fewer_stage run.name ?_⟩
      rw [stage]
      exact fun _ => Nat.le_refl _
    refine ⟨rfl, fewer_stage run.name ?_⟩
    rw [stage]
    exact fun _ => Nat.le_refl _
  | declining =>
    refine ⟨rfl, fewer_stage run.name ?_⟩
    rw [stage]
    exact fun _ => Nat.le_refl _
  | surfacing => exact ⟨rfl, fewer_enqueue run.name stage⟩

theorem delivering_broadcast {action event channelName : String} (delivering : run.Delivering)
    (single : run.Single (.broadcast action event channelName)) :
    (run.step (.broadcast action event channelName)).Delivering := by
  cases sending : run.feed.sending with
  | some =>
    have same : run.step (.broadcast action event channelName) = run := by
      simp [step, broadcast, sending]
    rw [same]
    exact delivering
  | none =>
    have copies := fun serial => run.feed.copies_broadcast run.isJoined run.name action event channelName serial sending
    have frame : (run.step (.broadcast action event channelName)).feed.next = run.feed.next + 1 ∧
        (run.step (.broadcast action event channelName)).feed.joined =
          if run.isJoined then run.feed.joined ++ [run.feed.next] else run.feed.joined := by
      refine ⟨?_, ?_⟩
      · simp [step, broadcast, sending]
      · simp [step, broadcast, sending]
    have own : ∀ serial, serial ∈ (run.step (.broadcast action event channelName)).feed.joined →
        serial ∈ run.feed.joined ∨ (run.link.state = .joined ∧ serial = run.feed.next) := by
      intro serial member
      rw [frame.2] at member
      split at member
      · rename_i joined
        rcases mem_append.mp member with before | new
        · exact .inl before
        · exact .inr ⟨of_decide_eq_true joined, mem_singleton.mp new⟩
      · exact .inl member
    refine ⟨?_, ?_, ?_, ?_⟩
    · intro serial later
      have none' := delivering.fresh serial (by omega)
      have other : serial ≠ run.feed.next := by omega
      exact (copies serial).trans (by rw [if_neg other, none'])
    · intro serial member
      rw [frame.1]
      rcases own serial member with before | ⟨_, new⟩
      · exact (delivering.below serial before).trans (Nat.lt_succ_self _)
      · omega
    · intro serial member
      apply (copies serial).le.trans
      rcases own serial member with before | ⟨joined, new⟩
      · have below := delivering.below serial before
        have other : serial ≠ run.feed.next := by omega
        rw [if_neg other]
        exact delivering.once serial before
      rw [if_pos new, new, delivering.fresh run.feed.next (Nat.le_refl _), Nat.zero_add]
      by_cases its : channelName = run.name
      · have one := single sending joined its
        rw [if_pos its]
        omega
      have silent : surfaces ⟨run.feed.next, action, event, channelName⟩ run.name = false := by
        simp [surfaces, its]
      rw [if_neg its, silent]
      exact Nat.zero_le _
    · have heard := delivering.heard
      simp only [step, broadcast, sending]
      exact run.feed.heard_same rfl rfl rfl rfl heard

theorem step_delivering (label : ClientStep) (delivering : run.Delivering) (single : run.Single label) :
    (run.step label).Delivering := by
  have still := fewer_same run.name run.feed
  cases label with
  | createChannel | connect | lose conn | join | run place | change =>
    exact delivering_fewer run _ rfl still delivering
  | broadcast => exact delivering_broadcast run delivering single
  | send => exact delivering_fewer run _ rfl (fewer_send run.name) delivering
  | init =>
    obtain ⟨name, fewer⟩ := init_fewer run
    exact delivering_fewer run _ name fewer delivering
  | receive => exact delivering_fewer run _ rfl (fewer_receive run.name) delivering
  | forward => exact delivering_fewer run _ rfl (fewer_forward run.name) delivering
  | deliver => exact delivering_fewer run _ rfl (fewer_deliver run.name) delivering
  | offer => exact delivering_fewer run _ rfl (fewer_offer run.name) delivering
  | onMessage =>
    have fewer := fewer_listeners run.name run.feed run.feed.onMessage ⟨rfl, rfl, fun _ => rfl⟩ run.feed.heard_join
    exact delivering_fewer run _ rfl fewer delivering
  | unsubscribe place =>
    have fewer := fewer_listeners run.name run.feed (run.feed.unsubscribe place) ⟨rfl, rfl, fun _ => rfl⟩
      run.feed.heard_unsubscribe
    exact delivering_fewer run _ rfl fewer delivering
  | hear => exact delivering_fewer run _ rfl (fewer_hear run.name) delivering

-- With one subscription for every event of the joined channel no event is delivered twice.
theorem events_once (name : String) (labels : List ClientStep) (single : Follows step Single (new name) labels) :
    Always step DeliveredOnce (new name) labels := by
  have kept : ∀ (run : ClientRun) (label : ClientStep), run.Delivering → run.Single label → (run.step label).Delivering :=
    step_delivering
  exact always_mono step Delivering DeliveredOnce delivering_once _ labels
    (always_of_follows step Single Delivering kept _ (delivering_new name) single)

def hears : List ClientStep :=
  joinedRoom ++ [.onMessage, .broadcast "BROADCAST" "message" "/room", .send 0, .send 0, .send 0, .receive 0, .forward 0,
    .deliver, .offer 0, .offer 0, .hear 0]

theorem hears_once : Always step DeliveredOnce (new "/room") hears :=
  events_once "/room" hears
    ⟨trivial, trivial, trivial, trivial, trivial, trivial, trivial, trivial, trivial, trivial, trivial, trivial, trivial,
      trivial, trivial, fun _ _ _ => by decide +kernel, trivial, trivial, trivial, trivial, trivial, trivial,
      fun _ _ _ => by decide +kernel, trivial, trivial, trivial, trivial, trivial, trivial, trivial, trivial, trivial,
      trivial⟩

def rejoins : List ClientStep :=
  joinedRoom ++ rejoined ++ acknowledged 1 ++ [.broadcast "BROADCAST" "message" "/room", .send 0, .send 0, .send 0,
    .receive 0, .forward 0, .receive 0, .forward 0, .receive 1, .forward 1]

def fails : List ClientStep :=
  joinedRoom ++ [.broadcast "SYSTEM" "INTERNAL_ERROR" "/room", .send 0, .send 0, .send 0, .init, .init, .receive 0,
    .forward 0]

theorem events_doubled :
    ¬ Always step DeliveredOnce (new "/room") rejoins ∧ ¬ Always step DeliveredOnce (new "/room") fails := by
  have twice : 2 ∈ (run step (new "/room") rejoins).feed.joined ∧
      (run step (new "/room") rejoins).feed.put.count 2 = 2 := by
    decide +kernel
  have both : 1 ∈ (run step (new "/room") fails).feed.joined ∧ (run step (new "/room") fails).feed.put.count 1 = 2 := by
    decide +kernel
  refine ⟨?_, ?_⟩
  · intro always
    have once := (always_run step (new "/room") always 2 twice.1).1
    omega
  intro always
  have once := (always_run step (new "/room") always 1 both.1).1
  omega

end ClientRun

end PondSocket.Go.Client
