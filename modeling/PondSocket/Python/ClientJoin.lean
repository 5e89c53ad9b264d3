import PondSocket.Python.ClientChannel

namespace PondSocket.Python.Client

open Library List Channel
open Library.BoundedQueue (Waits)
open Js (ClientActions ConnectionState ChannelState)

-- A channel with what became of its last join: of one made while the connection was
-- not there, and not sent or answered since, the number of messages queued after it.
structure JoinRun where
  channel : Channel
  behind : Option Nat

namespace JoinRun

open Client.Channel (IsJoin)

variable (run : JoinRun)

variable (label : ChannelStep) {requestId : String}

def new (channel : Channel) : JoinRun := ⟨channel, none⟩

def behindAfter (run : JoinRun) : ChannelStep → Option Nat
  | .join _ =>
    if run.channel.state = .joining ∨ run.channel.state = .joined ∨ run.channel.state = .declined ∨
        run.channel.closed = true then run.behind
    else if run.channel.connectionState = .connected then none
    else some 0
  | .sendMessage _ _ _ => run.behind.map (· + 1)
  | .connection .connected _ => none
  | .connection _ _ => run.behind
  | .leave _ => none
  | .acknowledge => none
  | .decline => none
  | .runTask => run.behind

def step (run : JoinRun) (label : ChannelStep) : JoinRun := ⟨run.channel.step label, run.behindAfter label⟩

def Regains (run : JoinRun) : ChannelStep → Prop
  | .connection .connected _ =>
    run.channel.connectionState ≠ .connected ∧ (run.channel.state = .joining ∨ run.channel.state = .stalled)
  | _ => False

def Requested (run : JoinRun) (label : ChannelStep) : Prop :=
  run.Regains label → (run.channel.step label).HandedLater

-- A channel that is joining has a join that the publisher has yet to be handed, or one
-- that was made without a connection and has fewer messages behind it than the queue holds.
def Sound (run : JoinRun) (label : ChannelStep) : Prop :=
  run.Regains label → run.channel.state = .joining →
    (∃ message ∈ run.channel.tasks, IsJoin message) ∨
      ∃ count, run.behind = some count ∧ count < run.channel.maxQueueSize

structure Kept (run : JoinRun) : Prop where
  waits : Waits IsJoin run.channel.maxQueueSize run.channel.queue run.behind
  joining : run.behind ≠ none → run.channel.state = .joining
  closed : run.channel.closed = true → run.channel.state = .closed

theorem new_kept (name : String) (params : Dict) (connectionState : ConnectionState) (maxQueueSize : Nat) :
    (new (.new name params connectionState maxQueueSize)).Kept := by
  refine ⟨?_, fun some => absurd rfl some, fun closed => nomatch closed⟩
  exact BoundedQueue.waits_unmarked (Nat.zero_le _) (fun _ member => absurd member not_mem_nil)

theorem behind_none (kept : run.Kept) (other : run.channel.state ≠ .joining) : run.behind = none := by
  by_contra some
  exact other (kept.joining some)

def Declines (channel : Channel) : Prop :=
  channel.state = .joining ∨ channel.state = .joined ∨ channel.state = .declined ∨ channel.closed = true

variable {channel : Channel}

theorem join_declines {requestId : String} (declines : Declines channel) : channel.join requestId = channel := by
  simp only [Channel.join]
  split
  · rfl
  rename_i alive
  rcases declines with joining | joined | declined | closed
  · rw [if_pos (.inl joining)]
  · rw [if_pos (.inr (.inl joined))]
  · rw [if_pos (.inr (.inr declined))]
  · exact absurd closed alive

theorem join_acts {requestId : String} (acts : ¬ Declines channel) :
    channel.join requestId =
      if channel.connectionState = .connected then
        ({ channel with state := .joining }).spawn (channel.buildJoinMessage requestId)
      else
        { channel with
          state := .joining,
          queue := BoundedQueue.push channel.maxQueueSize channel.queue (channel.buildJoinMessage requestId) } := by
  have alive : ¬ channel.closed = true := fun closed => acts (.inr (.inr (.inr closed)))
  have free : ¬ (channel.state = .joining ∨ channel.state = .joined ∨ channel.state = .declined) := by
    intro busy
    rcases busy with joining | joined | declined
    · exact acts (.inl joining)
    · exact acts (.inr (.inl joined))
    · exact acts (.inr (.inr (.inl declined)))
  simp only [Channel.join, if_neg alive, if_neg free, enqueueOrSend]
  rw [if_neg (fun both => by cases both.2)]
  by_cases connected : channel.connectionState = .connected
  · rw [if_pos ⟨connected, rfl⟩, if_pos connected]
  · rw [if_neg (fun both => connected both.1), if_neg connected]

theorem keep_join (kept : run.Kept) : (run.step (.join requestId)).Kept := by
  simp only [step, Channel.step]
  by_cases declines : Declines run.channel
  · have same : run.behindAfter (.join requestId) = run.behind := if_pos declines
    rw [same, join_declines declines]
    exact kept
  have none := behind_none run kept (fun joining => declines (.inl joining))
  have waits := kept.waits
  rw [none] at waits
  have after : run.behindAfter (.join requestId) =
      if run.channel.connectionState = .connected then Option.none else some 0 := if_neg declines
  have alive : ¬ run.channel.closed = true := fun closed => declines (.inr (.inr (.inr closed)))
  rw [after, join_acts declines]
  by_cases connected : run.channel.connectionState = .connected
  · rw [if_pos connected, if_pos connected]
    exact ⟨waits, fun some => absurd rfl some, fun closed => absurd closed alive⟩
  rw [if_neg connected, if_neg connected]
  refine ⟨?_, fun _ => rfl, fun closed => absurd closed alive⟩
  exact BoundedQueue.waits_push_marked waits rfl

theorem keep_send {event : String} {payload : Dict} {requestId : String} (kept : run.Kept) :
    (run.step (.sendMessage event payload requestId)).Kept := by
  have joining : run.behind.map (· + 1) ≠ none → run.channel.state = .joining := by
    intro some
    exact kept.joining fun none => some (by rw [none]; rfl)
  simp only [step, Channel.step, Channel.sendMessage, behindAfter]
  split
  · rename_i closed
    have none := behind_none run kept (by rw [kept.closed closed]; exact ChannelState.noConfusion)
    have waits := kept.waits
    rw [none] at waits ⊢
    exact ⟨waits, fun some => absurd rfl some, kept.closed⟩
  simp only [enqueueOrSend]
  split
  · rename_i joined
    have none := behind_none run kept (by rw [joined.2]; exact ChannelState.noConfusion)
    have waits := kept.waits
    rw [none] at waits ⊢
    exact ⟨waits, fun some => absurd rfl some, kept.closed⟩
  split
  · rename_i joins
    cases joins.2
  · refine ⟨?_, joining, kept.closed⟩
    exact BoundedQueue.waits_push_other kept.waits (fun joins => by cases joins)

theorem queue_none (kept : run.Kept) (other : run.channel.state ≠ .joining) :
    Waits IsJoin run.channel.maxQueueSize run.channel.queue none := by
  rw [← behind_none run kept other]
  exact kept.waits

theorem connection_comes {requestId : String} (fits : channel.queue.length ≤ channel.maxQueueSize)
    (alive : channel.closed = false) :
    channel.handleConnectionState .connected requestId =
      { channel with
        connectionState := .connected,
        tasks := channel.tasks ++ (if channel.state = .stalled then [channel.buildJoinMessage requestId]
          else if channel.state = .joining then channel.queue.filter fun message => decide (IsJoin message)
          else []),
        queue :=
          if channel.state = .joining then channel.queue.filter fun message => !decide (IsJoin message)
          else channel.queue } := by
  simp only [handleConnectionState, alive, Bool.false_eq_true, if_false]
  by_cases stalled : channel.state = .stalled
  · rw [if_pos stalled, if_pos stalled, if_neg (by rw [stalled]; exact ChannelState.noConfusion)]
    rfl
  rw [if_neg stalled, if_neg stalled]
  by_cases joining : channel.state = .joining
  · rw [if_pos joining, if_pos joining, if_pos joining, ← alive]
    exact drain_queued_joins { channel with connectionState := .connected } fits
  · rw [if_neg joining, if_neg joining, if_neg joining, append_nil, ← alive]

variable {run}

theorem keep_connected (kept : run.Kept) :
    (run.step (.connection .connected requestId)).Kept := by
  simp only [step, Channel.step, behindAfter]
  cases alive : run.channel.closed with
  | true =>
    have shut := kept.closed alive
    have waits := queue_none run kept (by rw [shut]; exact ChannelState.noConfusion)
    simp only [handleConnectionState, alive, if_true]
    exact ⟨waits, fun some => absurd rfl some, fun _ => shut⟩
  | false =>
    rw [connection_comes kept.waits.fits alive]
    refine ⟨?_, fun some => absurd rfl some, fun closed => absurd (alive.symm.trans closed) Bool.false_ne_true⟩
    by_cases joining : run.channel.state = .joining
    · simp only [if_pos joining]
      apply BoundedQueue.waits_unmarked
      · exact Nat.le_trans (length_filter_le _ _) kept.waits.fits
      intro message member joins
      have unmarked := (mem_filter.mp member).2
      rw [decide_eq_true joins] at unmarked
      cases unmarked
    · simp only [if_neg joining]
      exact queue_none run kept joining

theorem keep_away {state : ConnectionState} {requestId : String} (kept : run.Kept)
    (away : state ≠ .connected) : (run.step (.connection state requestId)).Kept := by
  have same : run.behindAfter (.connection state requestId) = run.behind := by
    cases state with
    | connected => exact absurd rfl away
    | disconnected | connecting => rfl
  simp only [step, Channel.step, handleConnectionState, same]
  split
  · exact ⟨kept.waits, kept.joining, kept.closed⟩
  rename_i alive
  cases state with
  | connected => exact absurd rfl away
  | connecting => exact ⟨kept.waits, kept.joining, kept.closed⟩
  | disconnected =>
    simp only
    split
    · rename_i joined
      refine ⟨kept.waits, ?_, fun closed => absurd closed alive⟩
      intro some
      have joining := kept.joining some
      rw [joined] at joining
      cases joining
    · exact ⟨kept.waits, kept.joining, kept.closed⟩

variable {label}

theorem keep_answer (kept : run.Kept) (answers : label = .acknowledge ∨ label = .decline) : (run.step label).Kept := by
  have empty : Waits IsJoin run.channel.maxQueueSize [] none :=
    BoundedQueue.waits_unmarked (Nat.zero_le _) (fun _ member => absurd member not_mem_nil)
  rcases answers with rfl | rfl
  · simp only [step, Channel.step, Channel.acknowledge, behindAfter]
    split
    · rename_i closed
      have waits := queue_none run kept (by rw [kept.closed closed]; exact ChannelState.noConfusion)
      exact ⟨waits, fun some => absurd rfl some, kept.closed⟩
    rename_i alive
    split
    · rw [flush_queue]
      exact ⟨empty, fun some => absurd rfl some, fun closed => absurd closed alive⟩
    · rename_i other
      exact ⟨queue_none run kept (fun joining => other (.inl joining)), fun some => absurd rfl some, kept.closed⟩
  · simp only [step, Channel.step, Channel.decline, behindAfter]
    split
    · rename_i closed
      have waits := queue_none run kept (by rw [kept.closed closed]; exact ChannelState.noConfusion)
      exact ⟨waits, fun some => absurd rfl some, kept.closed⟩
    rename_i alive
    split
    · exact ⟨empty, fun some => absurd rfl some, fun closed => absurd closed alive⟩
    · rename_i other
      exact ⟨queue_none run kept (fun joining => other (.inl joining)), fun some => absurd rfl some, kept.closed⟩

theorem keep_leave (kept : run.Kept) : (run.step (.leave requestId)).Kept := by
  simp only [step, Channel.step, Channel.leave, behindAfter]
  split
  · rename_i closed
    have waits := queue_none run kept (by rw [kept.closed closed]; exact ChannelState.noConfusion)
    exact ⟨waits, fun some => absurd rfl some, kept.closed⟩
  · refine ⟨?_, fun some => absurd rfl some, fun _ => rfl⟩
    exact BoundedQueue.waits_unmarked (Nat.zero_le _) (fun _ member => absurd member not_mem_nil)

theorem step_kept (kept : run.Kept) : (run.step label).Kept := by
  cases label with
  | join => exact keep_join run kept
  | leave => exact keep_leave kept
  | sendMessage => exact keep_send run kept
  | connection state =>
    by_cases comes : state = .connected
    · rw [comes]
      exact keep_connected kept
    · exact keep_away kept comes
  | acknowledge => exact keep_answer kept (.inl rfl)
  | decline => exact keep_answer kept (.inr rfl)
  | runTask =>
    simp only [step, Channel.step, Channel.runTask, behindAfter]
    cases run.channel.tasks with
    | nil => exact kept
    | cons => exact ⟨kept.waits, kept.joining, kept.closed⟩

theorem requested_iff_sound (kept : run.Kept) :
    run.Requested label ↔ run.Sound label := by
  simp only [Requested, Sound, handed_later_iff]
  cases label with
  | connection state =>
    cases state with
    | connected =>
      apply forall_congr'
      intro regains
      have alive : run.channel.closed = false := by
        apply Bool.eq_false_iff.mpr
        intro closed
        have shut := kept.closed closed
        rcases regains.2 with joining | stalled
        · cases joining.symm.trans shut
        · cases stalled.symm.trans shut
      simp only [Channel.step, connection_comes kept.waits.fits alive]
      rcases regains.2 with joining | stalled
      · have other : ¬ run.channel.state = .stalled := by
          rw [joining]
          exact ChannelState.noConfusion
        simp only [if_neg other, if_pos joining]
        rw [← BoundedQueue.marked_held_iff kept.waits]
        constructor
        · intro there _
          obtain ⟨message, member, joins⟩ := there
          rcases mem_append.mp member with spawned | drained
          · exact .inl ⟨message, spawned, joins⟩
          · exact .inr ⟨message, (mem_filter.mp drained).1, joins⟩
        · intro there
          rcases there joining with ⟨message, spawned, joins⟩ | ⟨message, queued, joins⟩
          · exact ⟨message, mem_append_left _ spawned, joins⟩
          · exact ⟨message, mem_append_right _ (mem_filter.mpr ⟨queued, decide_eq_true joins⟩), joins⟩
      · have other : ¬ run.channel.state = .joining := by
          rw [stalled]
          exact ChannelState.noConfusion
        simp only [if_pos stalled]
        constructor
        · exact fun _ joining => absurd joining other
        · exact fun _ => ⟨_, mem_append_right _ (mem_singleton.mpr rfl), rfl⟩
    | disconnected | connecting => exact ⟨fun _ regains => regains.elim, fun _ regains => regains.elim⟩
  | _ => exact ⟨fun _ regains => regains.elim, fun _ regains => regains.elim⟩

theorem joins_requested_iff (name : String) (params : Dict) (connectionState : ConnectionState) (maxQueueSize : Nat)
    (labels : List ChannelStep) :
    Follows step Requested (new (.new name params connectionState maxQueueSize)) labels ↔
      Follows step Sound (new (.new name params connectionState maxQueueSize)) labels := by
  have initial := new_kept name params connectionState maxQueueSize
  constructor
  · intro requested
    exact follows_of_inv step Requested Sound Kept (fun run label kept _ => step_kept kept)
      (fun run label kept => (requested_iff_sound kept).mp) _ labels initial requested
  · intro sound
    exact follows_of_inv step Sound Requested Kept (fun run label kept _ => step_kept kept)
      (fun run label kept => (requested_iff_sound kept).mpr) _ labels initial sound

theorem request_lost :
    ¬ Follows step Requested (new (.new "room" .empty .connected 100))
        [.join "j", .runTask, .connection .disconnected "", .connection .connected "r"] ∧
      ¬ Follows step Requested (new (.new "room" .empty .disconnected 2))
        [.join "j", .sendMessage "a" .empty "1", .sendMessage "b" .empty "2", .connection .connected "r"] := by
  constructor
  · intro requested
    have last := requested.2.2.2.1
    obtain ⟨message, member, _⟩ := last ⟨(fun connected => nomatch connected), .inl rfl⟩ [] (Nat.le_refl 0)
    cases member
  · intro requested
    have last := requested.2.2.2.1
    obtain ⟨_, member, _⟩ := last ⟨(fun connected => nomatch connected), .inl rfl⟩ [] (Nat.le_refl 0)
    cases member

end JoinRun

end PondSocket.Python.Client
