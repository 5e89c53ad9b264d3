import PondSocket.Js.ClientChannel
import PondSocket.Library.Run

namespace PondSocket.Js

open Library List Channel

-- A channel with what became of its sendMessage calls: the messages in the order of the calls, and those that a
-- full queue let go, always its oldest.
structure SendRun where
  channel : Channel
  calls : List ClientMessage
  dropped : List ClientMessage

abbrev Draft := String × PondObject

namespace SendRun

def new (channel : Channel) : SendRun := ⟨channel, [], []⟩

def shifts (channel : Channel) : List ClientMessage :=
  if channel.joinState = .joined then []
  else if channel.maxQueueSize ≤ channel.queue.length then channel.queue.take 1
  else []

def send (run : SendRun) (draft : Draft) : SendRun where
  channel := (run.channel.sendMessage draft.1 draft.2).1
  calls := run.calls ++ [run.channel.message .broadcast draft.1 draft.2]
  dropped := run.dropped ++ shifts run.channel

def sends (run : SendRun) (drafts : List Draft) : SendRun := drafts.foldl send run

-- Channel.acknowledge with what the state listeners send while JOINED, and after it STALLED, is announced.
def acknowledge (run : SendRun) (requestId : Option String) (onJoined onStalled : List Draft) : SendRun :=
  if !run.channel.awaitsReply then run
  else if run.channel.misses requestId then run
  else
    let joined := { run with channel := { run.channel.clearJoinTimeout with
      pendingJoinRequestId := none
      lastError := none
      joinState := .joined } }.sends onJoined
    match joined.channel.init with
    | (channel, some _) => { joined with channel := channel }
    | (channel, none) =>
      let begun := { joined with channel := channel }
      let told := if channel.joinState = .stalled then begun.sends onStalled else begun
      { told with channel := told.channel.emptyQueue }

-- A listener of JOINING, or of STALLED outside acknowledge, sends into the queue: that is a send of its own.
inductive Label
  | send (draft : Draft)
  | join
  | acknowledge (requestId : Option String) (onJoined onStalled : List Draft)
  | connection (state : ConnectionState)

def step (run : SendRun) : Label → SendRun
  | .send draft => run.send draft
  | .join => { run with channel := run.channel.join }
  | .acknowledge requestId onJoined onStalled => run.acknowledge requestId onJoined onStalled
  | .connection state => { run with channel := run.channel.connection state }

theorem acknowledge_silent (run : SendRun) (requestId : Option String) :
    (run.acknowledge requestId [] []).channel = run.channel.acknowledge requestId := by
  simp only [acknowledge, Channel.acknowledge, sends, foldl_nil, ite_self]
  split
  · rfl
  split
  · rfl
  · split <;> simp_all

def sent (run : SendRun) : List ClientMessage := run.channel.published.filter (·.action = .broadcast)

structure InOrder (run : SendRun) : Prop where
  once : run.calls.Nodup
  order : (run.sent ++ run.channel.queue).Sublist run.calls
  accounted : (run.dropped ++ (run.sent ++ run.channel.queue)).Perm run.calls

-- join is called once, on a channel that has done nothing yet.
def Once (run : SendRun) : Label → Prop
  | .join => run.channel.joinState = .idle
  | _ => True

-- Nobody sends from a JOINED listener while messages wait in the queue.
def Calm (run : SendRun) : Label → Prop
  | .acknowledge requestId onJoined _ =>
    run.channel.awaitsReply = true → run.channel.misses requestId = false → onJoined = [] ∨ run.channel.queue = []
  | _ => True

structure Sound (run : SendRun) : Prop where
  inOrder : run.InOrder
  drawn : ∀ message ∈ run.calls, ∃ index < run.channel.drawn, message.requestId = run.channel.uuids.draw index
  spoken : ∀ message ∈ run.calls, message.action = .broadcast
  unclosed : run.channel.joinState ≠ .declined ∧ run.channel.joinState ≠ .closed ∧ run.channel.closed = false

def Emptied (run : SendRun) : Prop := run.channel.joinState = .joined → run.channel.queue = []

def broadcasts (messages : List ClientMessage) : List ClientMessage := messages.filter (·.action = .broadcast)

-- A step of the channel that hands over no message of its own.
structure Kept (before after : Channel) : Prop where
  queue : after.queue = before.queue
  published : broadcasts after.published = broadcasts before.published
  drawn : before.drawn ≤ after.drawn
  uuids : after.uuids = before.uuids
  closed : after.closed = before.closed
  state : after.joinState = before.joinState ∨ after.joinState = .joining ∨ after.joinState = .stalled

theorem kept_refl (channel : Channel) : Kept channel channel := ⟨rfl, rfl, le_refl _, rfl, rfl, .inl rfl⟩

theorem kept_trans {first second third : Channel} (left : Kept first second) (right : Kept second third) :
    Kept first third where
  queue := right.queue.trans left.queue
  published := right.published.trans left.published
  drawn := le_trans left.drawn right.drawn
  uuids := right.uuids.trans left.uuids
  closed := right.closed.trans left.closed
  state := by
    rcases right.state with same | moved
    · rw [same]
      exact left.state
    · exact .inr moved

theorem kept_crosses : Crosses Kept where
  refl := kept_refl
  trans := kept_trans
  send channel := by
    rw [send_frame]
    refine ⟨rfl, ?_, Nat.le_succ _, rfl, rfl, .inl rfl⟩
    rw [broadcasts, filter_append, broadcasts]
    exact append_nil _
  stall channel := by
    rw [stall_frame]
    exact ⟨rfl, rfl, le_refl _, rfl, rfl, .inr (.inr rfl)⟩
  wait _ _ _ := ⟨rfl, rfl, le_refl _, rfl, rfl, .inl rfl⟩
  joining _ := ⟨rfl, rfl, le_refl _, rfl, rfl, .inr (.inl rfl)⟩

variable {channel after : Channel} {state : ConnectionState}

theorem kept_sound {run : SendRun} (sound : run.Sound) (kept : Kept run.channel after) :
    Sound { run with channel := after } where
  inOrder := by
    have same : sent { run with channel := after } = run.sent := kept.published
    obtain ⟨once, order, accounted⟩ := sound.inOrder
    rw [← same, ← kept.queue] at order accounted
    exact ⟨once, order, accounted⟩
  drawn := by
    intro message called
    obtain ⟨index, below, named⟩ := sound.drawn message called
    exact ⟨index, lt_of_lt_of_le below kept.drawn, named.trans (by rw [← kept.uuids])⟩
  spoken := sound.spoken
  unclosed := by
    refine ⟨?_, ?_, kept.closed.trans sound.unclosed.2.2⟩
    · rcases kept.state with same | same | same <;> simp [same, sound.unclosed.1]
    · rcases kept.state with same | same | same <;> simp [same, sound.unclosed.2.1]

theorem kept_emptied {run : SendRun} (emptied : run.Emptied) (kept : Kept run.channel after) :
    Emptied { run with channel := after } := by
  intro joined
  rcases kept.state with same | same | same
  · exact kept.queue.trans (emptied (same.symm.trans joined))
  · cases same.symm.trans joined
  · cases same.symm.trans joined

theorem in_order_push {run after : SendRun} (inOrder : run.InOrder) {message : ClientMessage}
    (fresh : message ∉ run.calls) {waiting : List ClientMessage}
    (calls : after.calls = run.calls ++ [message])
    (lost : ∃ shifted, run.channel.queue = shifted ++ waiting ∧ after.dropped = run.dropped ++ shifted)
    (handed : after.sent ++ after.channel.queue = run.sent ++ waiting ++ [message]) : after.InOrder := by
  obtain ⟨shifted, split, dropped⟩ := lost
  obtain ⟨once, order, accounted⟩ := inOrder
  rw [split] at order accounted
  refine ⟨?_, ?_, ?_⟩
  · rw [calls, nodup_append]
    refine ⟨once, nodup_singleton message, ?_⟩
    intro earlier called last same together
    rw [mem_singleton.mp same] at together
    exact fresh (together ▸ called)
  · rw [handed, calls]
    refine List.Sublist.append (List.Sublist.trans ?_ order) (List.Sublist.refl _)
    exact List.Sublist.append (List.Sublist.refl _) (sublist_append_right shifted waiting)
  · rw [handed, calls, dropped, ← append_assoc]
    refine List.Perm.append (List.Perm.trans ?_ accounted) (List.Perm.refl _)
    rw [append_assoc]
    refine List.Perm.append_left run.dropped ?_
    rw [← append_assoc, ← append_assoc]
    exact List.Perm.append_right waiting perm_append_comm

theorem shifts_waiting (pending : channel.joinState ≠ .joined) :
    ∃ waiting, channel.queue = shifts channel ++ waiting ∧
      (if channel.maxQueueSize ≤ channel.queue.length then channel.queue.drop 1 else channel.queue) = waiting := by
  simp only [shifts, if_neg pending]
  split
  · exact ⟨_, (take_append_drop 1 channel.queue).symm, rfl⟩
  · exact ⟨_, rfl, rfl⟩

theorem send_sound {run : SendRun} {draft : Draft} (sound : run.Sound) (emptied : run.Emptied) :
    (run.send draft).Sound ∧ (run.send draft).Emptied := by
  have fresh : run.channel.message .broadcast draft.1 draft.2 ∉ run.calls := by
    intro called
    obtain ⟨index, below, named⟩ := sound.drawn _ called
    exact absurd (run.channel.uuids.distinct _ _ named) (Nat.ne_of_gt below)
  have spoken : ∀ message ∈ run.calls ++ [run.channel.message .broadcast draft.1 draft.2],
      message.action = .broadcast := by
    intro message called
    rcases mem_append.mp called with earlier | last
    · exact sound.spoken message earlier
    · rw [mem_singleton.mp last]
      rfl
  have drawn : ∀ (channel : Channel), channel.drawn = run.channel.drawn + 1 → channel.uuids = run.channel.uuids →
      ∀ message ∈ run.calls ++ [run.channel.message .broadcast draft.1 draft.2],
        ∃ index < channel.drawn, message.requestId = channel.uuids.draw index := by
    intro channel count source message called
    rw [count, source]
    rcases mem_append.mp called with earlier | last
    · obtain ⟨index, below, named⟩ := sound.drawn message earlier
      exact ⟨index, Nat.lt_succ_of_lt below, named⟩
    · rw [mem_singleton.mp last]
      exact ⟨run.channel.drawn, Nat.lt_succ_self _, rfl⟩
  by_cases joined : run.channel.joinState = .joined
  · have direct : run.send draft = { run with
        channel := { run.channel with
          drawn := run.channel.drawn + 1
          published := run.channel.published ++ [run.channel.message .broadcast draft.1 draft.2] }
        calls := run.calls ++ [run.channel.message .broadcast draft.1 draft.2] } := by
      simp [send, Channel.sendMessage, Channel.publish, publisher, shifts, if_pos joined]
    rw [direct]
    refine ⟨⟨?_, drawn _ rfl rfl, spoken, sound.unclosed⟩, emptied⟩
    refine in_order_push sound.inOrder fresh rfl ⟨[], emptied joined, (append_nil _).symm⟩ ?_
    simp only [sent, emptied joined, filter_append, append_nil]
    rfl
  · obtain ⟨waiting, split, left⟩ := shifts_waiting joined
    have queued : run.send draft = { run with
        channel := { run.channel with
          drawn := run.channel.drawn + 1
          queue := waiting ++ [run.channel.message .broadcast draft.1 draft.2] }
        calls := run.calls ++ [run.channel.message .broadcast draft.1 draft.2]
        dropped := run.dropped ++ shifts run.channel } := by
      have takes : ¬(run.channel.joinState = .declined ∨ run.channel.joinState = .closed) := by
        simp [sound.unclosed]
      simp only [send, Channel.sendMessage, Channel.publish, if_neg joined, if_neg takes, left]
    rw [queued]
    refine ⟨⟨?_, drawn _ rfl rfl, spoken, sound.unclosed⟩, fun now => absurd now joined⟩
    refine in_order_push sound.inOrder fresh rfl ⟨shifts run.channel, split, rfl⟩ ?_
    simp [sent]

theorem sends_sound {drafts : List Draft} (run : SendRun) (sound : run.Sound) (emptied : run.Emptied) :
    (run.sends drafts).Sound ∧ (run.sends drafts).Emptied := by
  induction drafts generalizing run with
  | nil => exact ⟨sound, emptied⟩
  | cons draft _ ih =>
    obtain ⟨sent, cleared⟩ := send_sound sound emptied
    exact ih (run.send draft) sent cleared

theorem joined_sound {run : SendRun} (sound : run.Sound) :
    Sound { run with channel := { run.channel.clearJoinTimeout with
      pendingJoinRequestId := none
      lastError := none
      joinState := .joined } } := by
  rw [clear_join_timeout_frame]
  obtain ⟨⟨once, order, accounted⟩, drawn, spoken, _, _, unclosed⟩ := sound
  exact ⟨⟨once, order, accounted⟩, drawn, spoken, by simp, by simp, unclosed⟩

theorem kept_init (unclosed : channel.closed = false) : Kept channel channel.init.1 ∧ channel.init.2 = none := by
  obtain ⟨queue, published, drawn, uuids, closed, state⟩ := follow_crosses kept_crosses
    (channel.unsubscribe channel.presenceSub) (channel.unsubscribe channel.presenceSub).clientState.value
  have shut := closed.trans unclosed
  simp only [Channel.init, shut, Bool.false_eq_true, if_false]
  exact ⟨⟨queue, published, drawn, uuids, unclosed.symm, state⟩, trivial⟩

theorem flushed_sound {run : SendRun} (sound : run.Sound) :
    Sound { run with channel := run.channel.emptyQueue } ∧ Emptied { run with channel := run.channel.emptyQueue } := by
  have mine : broadcasts run.channel.queue = run.channel.queue := by
    apply filter_eq_self.mpr
    intro message waiting
    exact decide_eq_true (sound.spoken message (sound.inOrder.order.subset (mem_append_right _ waiting)))
  have handed : broadcasts (run.channel.published ++ run.channel.queue) ++ [] = run.sent ++ run.channel.queue := by
    rw [append_nil, broadcasts, filter_append]
    exact congrArg (run.sent ++ ·) mine
  rw [empty_queue_frame]
  refine ⟨⟨⟨sound.inOrder.once, ?_, ?_⟩, sound.drawn, sound.spoken, sound.unclosed⟩, fun _ => rfl⟩
  · exact handed ▸ sound.inOrder.order
  · exact handed ▸ sound.inOrder.accounted

theorem acknowledge_sound {run : SendRun} {requestId : Option String} {onJoined onStalled : List Draft}
    (sound : run.Sound) (emptied : run.Emptied) (calm : run.Calm (.acknowledge requestId onJoined onStalled)) :
    (run.acknowledge requestId onJoined onStalled).Sound ∧ (run.acknowledge requestId onJoined onStalled).Emptied := by
  simp only [acknowledge]
  split
  · exact ⟨sound, emptied⟩
  rename_i awaited
  split
  · exact ⟨sound, emptied⟩
  rename_i hit
  have quiet := calm (by simpa using awaited) (by simpa using hit)
  have marked := joined_sound sound
  generalize said : sends { run with channel := { run.channel.clearJoinTimeout with
      pendingJoinRequestId := none
      lastError := none
      joinState := .joined } } onJoined = joined
  have joinedSound : joined.Sound := by
    rcases quiet with silent | clear
    · rw [silent] at said
      exact said ▸ marked
    rw [← said]
    refine (sends_sound _ marked fun _ => ?_).1
    rw [clear_join_timeout_frame]
    exact clear
  obtain ⟨kept, plain⟩ := kept_init joinedSound.unclosed.2.2
  have begun := kept_sound joinedSound kept
  rw [← Prod.eta joined.channel.init, plain]
  refine flushed_sound ?_
  split
  · rename_i stalled
    exact (sends_sound _ begun fun now => by cases stalled.symm.trans now).1
  · exact begun

theorem step_sound (run : SendRun) (label : Label) (kept : run.Sound ∧ run.Emptied)
    (admitted : run.Once label ∧ run.Calm label) : (run.step label).Sound ∧ (run.step label).Emptied := by
  obtain ⟨sound, emptied⟩ := kept
  cases label with
  | send => exact send_sound sound emptied
  | join => exact ⟨kept_sound sound (join_crosses kept_crosses _), kept_emptied emptied (join_crosses kept_crosses _)⟩
  | acknowledge => exact acknowledge_sound sound emptied admitted.2
  | connection => exact ⟨kept_sound sound (connection_crosses kept_crosses _ _),
      kept_emptied emptied (connection_crosses kept_crosses _ _)⟩

theorem new_sound {name : String} {joinParams : PondObject} {maxQueueSize : Nat} {uuids : UuidSource} :
    (new (.new name joinParams maxQueueSize uuids state)).Sound ∧
      (new (.new name joinParams maxQueueSize uuids state)).Emptied := by
  refine ⟨⟨⟨nodup_nil, List.Sublist.refl _, List.Perm.refl _⟩, ?_, ?_, by simp [new, Channel.new]⟩, fun _ => rfl⟩
  all_goals
    intro message called
    exact absurd called not_mem_nil

end SendRun

end PondSocket.Js
