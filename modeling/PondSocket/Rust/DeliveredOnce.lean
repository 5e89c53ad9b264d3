import Mathlib.Data.List.Perm.Subperm
import PondSocket.Rust.Delivery

namespace PondSocket.Rust

open Library List
open Js (UserId NodeId)

-- Whom an item of the queue is for, with its place and its event.
def DispatchItem.keys (item : DispatchItem) (place : Nat) : List (Nat × Event × UserId) :=
  item.recipients.map fun userId => (place, item.event, userId)

def listedBy (items : List DispatchItem) : List (Nat × Event × UserId) :=
  items.zipIdx.flatMap fun entry => entry.1.keys entry.2

theorem listed_concat (items : List DispatchItem) (item : DispatchItem) :
    listedBy (items ++ [item]) = listedBy items ++ item.keys items.length := by
  simp [listedBy, zipIdx_append]

namespace Delivery

variable {delivery : Delivery} {place : Nat}

def Sent.triple (entry : Sent) : Nat × Event × UserId := (entry.item, entry.event, entry.recipientId)

def DeliverTask.triple (task : DeliverTask) : Nat × Event × UserId := (task.item, task.event, task.recipientId)

-- What was sent, is on its way and is still to be spawned.
def handed (delivery : Delivery) : List (Nat × Event × UserId) :=
  delivery.sent.map Sent.triple ++ delivery.tasks.map DeliverTask.triple ++
    delivery.current.elim [] fun item => item.keys (delivery.taken - 1)

structure Accounted (delivery : Delivery) : Prop where
  within : delivery.taken ≤ delivery.channel.dispatched.length
  handed : delivery.handed.Subperm (listedBy (delivery.channel.dispatched.take delivery.taken))

theorem accounted_grown {channel : Channel} {more : List DispatchItem} (accounted : delivery.Accounted)
    (grown : channel.dispatched = delivery.channel.dispatched ++ more) :
    Accounted { delivery with channel := channel } := by
  have within : delivery.taken ≤ channel.dispatched.length := by
    rw [grown, length_append]
    exact accounted.within.trans (Nat.le_add_right _ _)
  refine ⟨within, ?_⟩
  have same : channel.dispatched.take delivery.taken = delivery.channel.dispatched.take delivery.taken := by
    rw [grown, take_append_of_le_length accounted.within]
  rw [same]
  exact accounted.handed

theorem accounted_fewer (next : Delivery) (accounted : delivery.Accounted) (channel : next.channel = delivery.channel)
    (taken : next.taken = delivery.taken) (fewer : next.handed.Subperm delivery.handed) : next.Accounted := by
  refine ⟨?_, ?_⟩
  all_goals rw [channel, taken]
  · exact accounted.within
  · exact fewer.trans accounted.handed

theorem accounted_receive (accounted : delivery.Accounted) : delivery.receive.Accounted := by
  rw [receive]
  split
  · rename_i item none found
    have inside := (List.getElem?_eq_some_iff.mp found).1
    have listed : listedBy (delivery.channel.dispatched.take (delivery.taken + 1)) =
        listedBy (delivery.channel.dispatched.take delivery.taken) ++ item.keys delivery.taken := by
      rw [take_succ, found, Option.toList_some, listed_concat, length_take, Nat.min_eq_left inside.le]
    have before := accounted.handed
    simp only [handed, none, Option.elim_none, append_nil] at before
    split
    · exact accounted
    split
    · refine ⟨inside, ?_⟩
      rw [listed]
      simp only [handed, none, Option.elim_none, append_nil]
      exact before.trans (sublist_append_left _ _).subperm
    · refine ⟨inside, ?_⟩
      rw [listed]
      exact (subperm_append_right (item.keys delivery.taken)).mpr before
  · exact accounted

theorem accounted_spawn (accounted : delivery.Accounted) : delivery.spawn.Accounted := by
  rw [spawn]
  split
  · exact accounted
  · refine accounted_fewer _ accounted rfl rfl ?_
    simp only [handed, Option.elim_none, append_nil]
    exact (sublist_append_left _ _).subperm
  · rename_i event recipientId rest here
    split
    · refine accounted_fewer _ accounted rfl rfl (Perm.subperm (Perm.of_eq ?_))
      simp [handed, here, DispatchItem.keys, DeliverTask.triple]
    · exact accounted

theorem accounted_tasks {tasks : List DeliverTask} (accounted : delivery.Accounted)
    (kept : (tasks.map DeliverTask.triple).Sublist (delivery.tasks.map DeliverTask.triple)) :
    Accounted { delivery with tasks := tasks } :=
  accounted_fewer _ accounted rfl rfl (((Sublist.refl _).append kept).append (Sublist.refl _)).subperm

theorem accounted_look (accounted : delivery.Accounted) : (delivery.look place).Accounted := by
  rw [look]
  split
  · rename_i task there
    split
    · apply accounted_tasks accounted
      split
      · exact (eraseIdx_sublist _ _).map _
      · obtain ⟨whole, _, replaced⟩ := split_place delivery.tasks place task there
        rw [replaced]
        conv => rhs; rw [whole]
        simp [DeliverTask.triple]
    · exact accounted
  · exact accounted

theorem accounted_send (accounted : delivery.Accounted) : (delivery.send place).Accounted := by
  rw [send]
  split
  · rename_i task there
    split
    · exact accounted
    · refine accounted_fewer _ accounted rfl rfl (Perm.subperm ?_)
      obtain ⟨whole, erased, _⟩ := split_place delivery.tasks place task there
      simp only [handed, erased]
      conv => rhs; rw [whole]
      refine Perm.append_right _ ?_
      simp only [map_append, map_cons, map_nil, append_assoc, singleton_append]
      exact Perm.append_left _ perm_middle.symm
  · exact accounted

theorem accounted_step (delivery : Delivery) (label : DeliveryStep) (accounted : delivery.Accounted) :
    (delivery.step label).Accounted := by
  cases label with
  | enqueue room item =>
    cases room with
    | true => exact accounted_grown accounted rfl
    | false => exact accounted
  | connected | activity => exact accounted_grown accounted (append_nil _).symm
  | abort =>
    refine accounted_fewer _ accounted rfl rfl ?_
    simp only [step, handed, Option.elim_none, append_nil]
    exact (sublist_append_left _ _).subperm
  | receive => exact accounted_receive accounted
  | spawn => exact accounted_spawn accounted
  | look => exact accounted_look accounted
  | skip => exact accounted_tasks accounted ((eraseIdx_sublist _ _).map _)
  | send => exact accounted_send accounted

-- However many deliveries run at a time, in whatever order they get on and whenever
-- the loop ends: no event is sent to a user more often than its recipients name the user.
theorem sent_as_listed (name endpointPath : String) (nodeId : NodeId) (pubsub : Bool) (dispatchConcurrency : Nat)
    (labels : List DeliveryStep) :
    Always step (fun delivery => (delivery.sent.map Sent.triple).Subperm (listedBy delivery.channel.dispatched))
      (start name endpointPath nodeId pubsub dispatchConcurrency) labels := by
  refine always_mono step Accounted _ (fun delivery accounted => ?_) _ labels
    (always_of_follows step (fun _ _ => True) Accounted (fun delivery label kept _ => accounted_step delivery label kept) _
      ⟨Nat.le_refl _, Subperm.refl _⟩ (follows_all step _ _ labels fun _ _ => trivial))
  have sent : (delivery.sent.map Sent.triple).Sublist delivery.handed := by
    rw [handed, append_assoc]
    exact sublist_append_left _ _
  have listed : (listedBy (delivery.channel.dispatched.take delivery.taken)).Sublist
      (listedBy delivery.channel.dispatched) := by
    conv => rhs; rw [← take_append_drop delivery.taken delivery.channel.dispatched]
    rw [listedBy, listedBy, zipIdx_append, flatMap_append]
    exact sublist_append_left _ _
  exact sent.subperm.trans (accounted.handed.trans listed.subperm)

end Delivery

end PondSocket.Rust
