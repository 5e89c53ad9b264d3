import Mathlib.Data.List.Perm.Basic
import PondSocket.Js.ClientChannel
import PondSocket.Library.BoundedQueue

namespace PondSocket.Go.ClientQueue

open Library List
open Js (ChannelState)

def maxQueueSize : Nat := 100

-- A message with the goroutine of its SendMessage, the number of the call, and whether that queued it.
structure Message where
  sender : Nat
  id : Nat
  queued : Bool
deriving DecidableEq

inductive Stage
  | unused
  | admitted
  | joined
  | emptying
  | returned
deriving DecidableEq

-- passing are the calls that found the channel joined and have still to call the publisher. Emptying holds the lock.
structure Channel where
  currentState : ChannelState
  stage : Stage := .unused
  queue : List Message := []
  passing : List Message := []
  sent : List Message := []
  handed : List Message := []

inductive Label
  | publish (sender : Nat)
  | pass (place : Nat)
  | acknowledge

def latest (limit : Nat) (messages : List Message) : List Message := messages.drop (messages.length - limit)

namespace Channel

variable (channel : Channel)

def message (sender : Nat) (queued : Bool) : Message := ⟨sender, channel.sent.length, queued⟩

def publish (sender : Nat) : Channel :=
  if channel.stage = .emptying ∨ channel.passing.any (·.sender == sender) then channel
  else if channel.currentState = .joined then
    { channel with
      sent := channel.sent ++ [channel.message sender false]
      passing := channel.passing ++ [channel.message sender false] }
  else
    { channel with
      sent := channel.sent ++ [channel.message sender true]
      queue := BoundedQueue.push maxQueueSize channel.queue (channel.message sender true) }

def pass (place : Nat) : Channel :=
  match channel.passing[place]? with
  | none => channel
  | some message =>
    { channel with handed := channel.handed ++ [message], passing := channel.passing.eraseIdx place }

def acknowledge : Channel :=
  match channel.stage with
  | .unused =>
    if channel.currentState = .joining ∨ channel.currentState = .stalled then { channel with stage := .admitted }
    else { channel with stage := .returned }
  | .admitted => { channel with currentState := .joined, stage := .joined }
  | .joined => { channel with stage := .emptying }
  | .emptying =>
    match channel.queue with
    | [] => { channel with stage := .returned }
    | message :: queue => { channel with handed := channel.handed ++ [message], queue }
  | .returned => channel

def step (channel : Channel) : Label → Channel
  | .publish sender => channel.publish sender
  | .pass place => channel.pass place
  | .acknowledge => channel.acknowledge

def Before (first second : Message) : Prop := first.sender = second.sender → first.id < second.id

structure Sound : Prop where
  numbered : channel.sent.map Message.id = List.range channel.sent.length
  kept : channel.handed.filter Message.queued ++ channel.queue = latest maxQueueSize (channel.sent.filter Message.queued)
  passed : (channel.handed.filter (!·.queued) ++ channel.passing).Perm (channel.sent.filter (!·.queued))
  emptied : channel.stage = .returned → channel.queue = []
  ordered : channel.handed.Pairwise Before

def timely (channel : Channel) : Label → Bool
  | .publish _ => true
  | .pass place => channel.passing[place]?.all fun message => channel.queue.all (·.sender != message.sender)
  | .acknowledge => channel.stage != .unused || [.joining, .stalled, .joined].contains channel.currentState

structure Inv : Prop extends channel.Sound where
  early : channel.currentState ≠ .joined → channel.handed = [] ∧ channel.passing = [] ∧
    (channel.stage = .unused ∨ channel.stage = .admitted)
  empty : channel.currentState = .joined → channel.stage = .unused → channel.queue = []
  admitted : channel.stage = .admitted → channel.currentState ≠ .joined
  behind : ∀ message ∈ channel.handed, ∀ other ∈ channel.queue, Before message other
  last : ∀ message ∈ channel.passing, ∀ other ∈ channel.handed ++ channel.queue, Before other message
  alone : channel.passing.Pairwise fun first second => first.sender ≠ second.sender
  sorted : channel.queue.Pairwise fun first second => first.id < second.id
  fresh : ∀ message ∈ channel.handed ++ channel.queue ++ channel.passing, message.id < channel.sent.length

variable {channel}

variable {messages : List Message}

theorem push_latest {limit : Nat} {message : Message} :
    BoundedQueue.push limit (latest limit messages) message = latest limit (messages ++ [message]) := by
  simp only [BoundedQueue.push, latest]
  rw [← drop_append_of_le_length (Nat.sub_le _ _), drop_drop, length_drop, length_append, length_singleton]
  congr 1
  omega

theorem mem_push {limit : Nat} {message other : Message} (member : other ∈ BoundedQueue.push limit messages message) :
    other ∈ messages ∨ other = message := by
  simpa using mem_of_mem_drop member

theorem passing_direct (inv : channel.Inv) {message : Message} (member : message ∈ channel.passing) :
    message.queued = false := by
  have direct := inv.passed.subset (mem_append_right _ member)
  simpa using (mem_filter.mp direct).2

theorem publish_inv (sender : Nat) (inv : channel.Inv) : (channel.publish sender).Inv := by
  unfold publish
  split
  · exact inv
  rename_i admitted
  have idle := (not_or.mp admitted).2
  have numbered : ∀ queued, (channel.sent ++ [channel.message sender queued]).map Message.id =
      List.range (channel.sent ++ [channel.message sender queued]).length := fun queued => by
    simp [inv.numbered, range_succ, message]
  have grown : ∀ queued, channel.sent.length < (channel.sent ++ [channel.message sender queued]).length :=
    fun queued => by simp
  split
  · rename_i joined
    refine ⟨⟨numbered _, ?_, ?_, inv.emptied, inv.ordered⟩, fun other => absurd joined other, inv.empty, inv.admitted,
      inv.behind, ?_, ?_, inv.sorted, ?_⟩
    · simpa [message] using inv.kept
    · rw [← append_assoc, filter_append]
      exact inv.passed.append_right _
    · intro message member other known
      rcases mem_append.mp member with old | new
      · exact inv.last message old other known
      · rw [mem_singleton.mp new]
        exact fun _ => inv.fresh other (mem_append_left _ known)
    · refine pairwise_append.mpr ⟨inv.alone, pairwise_singleton _ _, fun message member other same => ?_⟩
      rw [mem_singleton.mp same]
      intro equal
      exact idle (any_eq_true.mpr ⟨message, member, beq_iff_eq.mpr equal⟩)
    · intro message member
      rw [← append_assoc] at member
      rcases mem_append.mp member with old | new
      · exact Nat.lt_trans (inv.fresh message old) (grown _)
      · rw [mem_singleton.mp new]
        exact grown _
  rename_i apart
  obtain ⟨handed, passing, stage⟩ := inv.early apart
  have kept := inv.kept
  rw [handed, filter_nil, nil_append] at kept
  have fresh : ∀ message ∈ channel.queue, message.id < channel.sent.length := fun message member =>
    inv.fresh message (mem_append_left _ (mem_append_right _ member))
  refine ⟨⟨numbered _, ?_, ?_, ?_, inv.ordered⟩, inv.early, fun joined => absurd joined apart, inv.admitted, ?_, ?_,
    inv.alone, ?_, ?_⟩
  · simp only [handed, kept, push_latest, filter_append, filter_nil, nil_append]
    rfl
  · simpa [message] using inv.passed
  · intro returned
    rcases stage with other | other <;> cases other.symm.trans returned
  · intro message member
    rw [handed] at member
    cases member
  · intro message member
    rw [passing] at member
    cases member
  · refine List.Pairwise.drop (pairwise_append.mpr ⟨inv.sorted, pairwise_singleton _ _, ?_⟩)
    intro message member other same
    rw [mem_singleton.mp same]
    exact fresh message member
  · intro message member
    simp only [handed, passing, nil_append, append_nil] at member
    rcases mem_push member with old | same
    · exact Nat.lt_trans (fresh message old) (grown _)
    · rw [same]
      exact grown _

theorem pass_inv {place : Nat} (inv : channel.Inv) (timely : channel.timely (.pass place) = true) :
    (channel.pass place).Inv := by
  unfold pass
  cases there : channel.passing[place]? with
  | none => exact inv
  | some message =>
    have clear : ∀ other ∈ channel.queue, other.sender ≠ message.sender := by
      simpa [Channel.timely, there] using timely
    obtain ⟨inside, same⟩ := List.getElem?_eq_some_iff.mp there
    have split : channel.passing.Perm (message :: channel.passing.eraseIdx place) := by
      rw [← same]
      exact (getElem_cons_eraseIdx_perm inside).symm
    have member := mem_of_getElem? there
    have direct := passing_direct inv member
    have joined : channel.currentState = .joined := by
      by_contra apart
      rw [(inv.early apart).2.1] at member
      cases member
    have alone := (split.pairwise_iff fun apart equal => apart equal.symm).mp inv.alone
    refine ⟨⟨inv.numbered, ?_, ?_, inv.emptied, ?_⟩, fun other => absurd joined other, inv.empty, inv.admitted, ?_, ?_,
      (pairwise_cons.mp alone).2, inv.sorted, ?_⟩
    · simpa [direct] using inv.kept
    · refine List.Perm.trans ?_ inv.passed
      rw [filter_append, filter_cons_of_pos (by simp [direct]), filter_nil, append_assoc]
      exact split.symm.append_left _
    · refine pairwise_append.mpr ⟨inv.ordered, pairwise_singleton _ _, fun other known new last => ?_⟩
      rw [mem_singleton.mp last]
      exact inv.last message member other (mem_append_left _ known)
    · intro other known waiting queued
      rcases mem_append.mp known with old | new
      · exact inv.behind other old waiting queued
      · rw [mem_singleton.mp new]
        exact fun equal => absurd equal.symm (clear waiting queued)
    · intro other waits known before
      rw [append_assoc] at before
      rcases mem_append.mp before with old | later
      · exact inv.last other (mem_of_mem_eraseIdx waits) known (mem_append_left _ old)
      rcases mem_append.mp later with new | queued
      · rw [mem_singleton.mp new]
        exact fun equal => absurd equal ((pairwise_cons.mp alone).1 other waits)
      · exact inv.last other (mem_of_mem_eraseIdx waits) known (mem_append_right _ queued)
    · intro other known
      refine inv.fresh other ?_
      simp only [mem_append, mem_singleton] at known ⊢
      rcases known with ((old | rfl) | queued) | waits
      · exact .inl (.inl old)
      · exact .inr member
      · exact .inl (.inr queued)
      · exact .inr (mem_of_mem_eraseIdx waits)

theorem acknowledge_inv (inv : channel.Inv) (timely : channel.timely .acknowledge = true) : channel.acknowledge.Inv := by
  -- The steps of Acknowledge that only move it on.
  have moves : ∀ currentState stage,
      (currentState ≠ .joined → channel.currentState ≠ .joined ∧ (stage = .unused ∨ stage = .admitted)) →
      (stage = .admitted → currentState ≠ .joined) → (stage = .returned → channel.queue = []) → stage ≠ .unused →
      ({ channel with currentState, stage } : Channel).Inv := fun currentState stage early admitted emptied used =>
    ⟨⟨inv.numbered, inv.kept, inv.passed, emptied, inv.ordered⟩,
      fun apart => ⟨(inv.early (early apart).1).1, (inv.early (early apart).1).2.1, (early apart).2⟩,
      fun _ unused => absurd unused used, admitted, inv.behind, inv.last, inv.alone, inv.sorted, inv.fresh⟩
  have joined : channel.stage ≠ .unused → channel.stage ≠ .admitted → channel.currentState = .joined := by
    intro used passed
    by_contra apart
    exact (inv.early apart).2.2.elim used passed
  unfold acknowledge
  split
  · rename_i unused
    split
    · rename_i awaited
      have apart : channel.currentState ≠ .joined := by rcases awaited with same | same <;> simp [same]
      exact moves _ _ (fun _ => ⟨apart, .inr rfl⟩) (fun _ => apart) (by simp) (by simp)
    · rename_i other
      simp only [Channel.timely, unused] at timely
      have open_ : channel.currentState = .joined := by simpa [not_or.mp other] using timely
      exact moves _ _ (absurd open_) (by simp) (fun _ => inv.empty open_ unused) (by simp)
  · exact moves _ _ (absurd rfl) (by simp) (by simp) (by simp)
  · rename_i stage
    exact moves _ _ (absurd (joined (by simp [stage]) (by simp [stage]))) (by simp) (by simp) (by simp)
  · rename_i stage
    have open_ := joined (by simp [stage]) (by simp [stage])
    cases queued : channel.queue with
    | nil => simpa only [queued] using moves channel.currentState .returned (absurd open_) (by simp) (fun _ => queued) (by simp)
    | cons message queue =>
      have member : message ∈ channel.queue := queued ▸ mem_cons_self
      have later : ∀ other ∈ queue, other ∈ channel.queue := fun other known => queued ▸ mem_cons_of_mem _ known
      have kept := inv.kept
      have sorted := inv.sorted
      rw [queued] at kept sorted
      have marked : message.queued = true := by
        have inside : message ∈ latest maxQueueSize (channel.sent.filter Message.queued) :=
          kept ▸ mem_append_right _ mem_cons_self
        exact (mem_filter.mp (mem_of_mem_drop inside)).2
      refine ⟨⟨inv.numbered, ?_, ?_, fun returned => ?_, ?_⟩, fun other => absurd open_ other, ?_, inv.admitted, ?_, ?_,
        inv.alone, (pairwise_cons.mp sorted).2, ?_⟩
      · simpa [marked] using kept
      · simpa [marked] using inv.passed
      · cases stage.symm.trans returned
      · refine pairwise_append.mpr ⟨inv.ordered, pairwise_singleton _ _, fun other known new last => ?_⟩
        rw [mem_singleton.mp last]
        exact inv.behind other known message member
      · exact fun _ unused => by cases stage.symm.trans unused
      · intro other known waiting queued
        rcases mem_append.mp known with old | new
        · exact inv.behind other old waiting (later waiting queued)
        · rw [mem_singleton.mp new]
          exact fun _ => (pairwise_cons.mp sorted).1 waiting queued
      · intro other waits known before
        simp only [append_assoc, singleton_append] at before
        exact inv.last other waits known (queued ▸ before)
      · intro other known
        exact inv.fresh other (by simpa [queued] using known)
  · exact inv

theorem step_inv (label : Label) (inv : channel.Inv) (timely : channel.timely label = true) : (channel.step label).Inv := by
  cases label with
  | publish sender => exact publish_inv sender inv
  | pass => exact pass_inv inv timely
  | acknowledge => exact acknowledge_inv inv timely

-- Whatever the channel waits for, a run of such steps loses, doubles and reorders nothing.
theorem client_queue_sound (currentState : ChannelState) (labels : List Label)
    (follows : Follows step (fun channel label => channel.timely label = true) { currentState } labels) :
    Always step Sound { currentState } labels :=
  always_mono step Inv Sound (fun _ inv => inv.toSound) _ labels
    (always_of_follows step _ Inv (fun _ label inv timely => step_inv label inv timely) _
      ⟨⟨rfl, rfl, List.Perm.refl _, fun _ => rfl, List.Pairwise.nil⟩, fun _ => ⟨rfl, rfl, .inl rfl⟩, fun _ _ => rfl,
        (by simp), (by simp), (by simp), List.Pairwise.nil, List.Pairwise.nil, (by simp)⟩ follows)

theorem two_senders : Always step Sound { currentState := .joining }
    [.publish 0, .acknowledge, .acknowledge, .publish 1, .pass 0, .acknowledge, .acknowledge, .acknowledge, .publish 0] :=
  client_queue_sound .joining _ (by decide +kernel)

-- A message sent between the change of state and the emptying overtakes the one that its goroutine had queued.
theorem queued_overtaken : ¬ Always step Sound { currentState := .joining }
    [.publish 0, .acknowledge, .acknowledge, .publish 0, .pass 0, .acknowledge, .acknowledge] := by
  intro always
  have ordered := (always_run step _ always).ordered
  revert ordered
  unfold Before
  decide +kernel

end Channel

end PondSocket.Go.ClientQueue
