import PondSocket.Js.ClientChannel

namespace PondSocket.Js

open Library

namespace Channel

variable (channel : Channel)

-- CLOSED, with nothing but leave messages handed to the publisher after the first mark ones.
def Terminal (mark : Nat) (channel : Channel) : Prop :=
  channel.joinState = .closed ∧ ∀ message ∈ channel.published.drop mark, message.action = .leaveChannel

structure Silent (channel next : Channel) : Prop where
  joinState : next.joinState = channel.joinState
  published : next.published = channel.published

theorem silent_refl : channel.Silent channel := ⟨rfl, rfl⟩

theorem silent_trans {first second third : Channel} (start : first.Silent second) (rest : second.Silent third) :
    first.Silent third :=
  ⟨rest.joinState.trans start.joinState, rest.published.trans start.published⟩

theorem silent_fold {Item : Type} {act : Channel → Item → Channel} {items : List Item} (channel : Channel)
    (silent : ∀ (channel : Channel) (item : Item), channel.joinState = .closed → channel.Silent (act channel item))
    (closed : channel.joinState = .closed) : channel.Silent (items.foldl act channel) := by
  induction items generalizing channel with
  | nil => exact silent_refl channel
  | cons item _ ih =>
    have first := silent channel item closed
    exact silent_trans first (ih (act channel item) (first.joinState.trans closed))

theorem silent_notify {state : ConnectionState} {channel : Channel} {id : Nat} (closed : channel.joinState = .closed) :
    channel.Silent (notify state channel id) := by
  simp only [notify]
  cases channel.clientState.observer? id with
  | none => exact silent_refl channel
  | some observer =>
    cases observer with
    | connectionWait =>
      by_cases reached : state = .connected
      · simp only [if_pos reached, closed]
        exact ⟨closed.symm, rfl⟩
      · simp only [if_neg reached]
        exact silent_refl channel
    | stateChange => simp [followState, closed, silent_refl]

theorem silent_leave (closed : channel.joinState = .closed) : channel.Silent channel.leave := by
  simp only [leave, closed]
  rw [clear_join_timeout_frame]
  exact ⟨closed.symm, rfl⟩

theorem silent_timeout {requestId : String} (closed : channel.joinState = .closed) :
    channel.Silent (channel.joinTimeout requestId) := by
  simp only [joinTimeout]
  split
  · split
    · exact ⟨rfl, rfl⟩
    · simp only [decline, awaitsReply, closed]
      exact ⟨closed.symm, rfl⟩
  · exact silent_refl channel

theorem silent_publish {channel next : Channel} {data : ClientMessage} (silent : channel.Silent next)
    (closed : channel.joinState = .closed) : channel.Silent (next.publish data).1 := by
  have still : next.joinState = .closed := silent.joinState.trans closed
  simpa [publish, still] using silent

-- From CLOSED every input but join keeps the state and hands over nothing: each
-- guard looks at the state, and the timers at the pending request.
theorem silent_step {op : ChannelOp} (closed : channel.joinState = .closed)
    (other : op ≠ .join) : channel.Silent (channel.step op) := by
  cases op with
  | acknowledge =>
    simp only [step, acknowledge, awaitsReply, closed]
    exact silent_refl channel
  | decline =>
    simp only [step, decline, awaitsReply, closed]
    exact silent_refl channel
  | join => exact absurd rfl other
  | leave => exact silent_leave channel closed
  | sendMessage => exact silent_publish ⟨rfl, rfl⟩ closed
  | sendForResponse =>
    simp only [step, sendForResponse]
    split
    · exact ⟨rfl, rfl⟩
    · exact silent_publish ⟨rfl, rfl⟩ closed
  | receive =>
    rw [step, receive_frame]
    exact ⟨rfl, rfl⟩
  | connection state =>
    have started : channel.Silent { channel with clientState := channel.clientState.hold state } := ⟨rfl, rfl⟩
    exact silent_trans started (silent_fold _ (fun channel id => silent_notify) closed)
  | joinTimeout => exact silent_timeout channel closed
  | responseTimeout => exact ⟨rfl, rfl⟩

theorem join_reopens (closed : channel.joinState = .closed) :
    channel.join.joinState = .joining := by
  simp only [join, closed]
  split
  · rename_i refused
    rcases refused with same | same <;> cases same
  split
  · simp only [sendJoinRequest, publisher]
    rw [clear_join_timeout_frame]
  · rfl

theorem leave_closes : channel.leave.joinState = .closed := rfl

theorem terminal_step (mark : Nat) (channel : Channel) (op : ChannelOp) (terminal : channel.Terminal mark)
    (other : op ≠ .join) : (channel.step op).Terminal mark := by
  have silent := silent_step channel terminal.1 other
  refine ⟨silent.joinState.trans terminal.1, ?_⟩
  rw [silent.published]
  exact terminal.2

def leftRoom : Channel :=
  (run step (new "room" .empty 100 .counting .connected) [.join, .acknowledge none]).leave

end Channel

end PondSocket.Js
