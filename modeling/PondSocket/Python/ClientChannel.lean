import PondSocket.Js.ClientChannel
import PondSocket.Library.BoundedQueue
import PondSocket.Python.Event

namespace PondSocket.Python.Client

open Library List
open Js (ClientActions ConnectionState ChannelState)

structure ClientMessage where
  action : ClientActions
  channelName : String
  event : String
  requestId : String
  payload : Dict

-- A channel of the client, with the tasks that it has spawned to publish a message
-- and the messages that the publisher has been handed.
structure Channel where
  name : String
  params : Dict
  maxQueueSize : Nat
  connectionState : ConnectionState
  state : ChannelState
  queue : List ClientMessage
  closed : Bool
  tasks : List ClientMessage
  handed : List ClientMessage

inductive ChannelStep where
  | join (requestId : String)
  | leave (requestId : String)
  | sendMessage (event : String) (payload : Dict) (requestId : String)
  | connection (state : ConnectionState) (requestId : String)
  | acknowledge
  | decline
  | runTask

namespace Channel

variable (channel : Channel)

def new (name : String) (params : Dict) (connectionState : ConnectionState) (maxQueueSize : Nat) : Channel :=
  ⟨name, params, maxQueueSize, connectionState, .idle, [], false, [], []⟩

def spawn (channel : Channel) (message : ClientMessage) : Channel :=
  { channel with tasks := channel.tasks ++ [message] }

def buildJoinMessage (channel : Channel) (requestId : String) : ClientMessage :=
  ⟨.joinChannel, channel.name, ClientActions.joinChannel.text, requestId, channel.params⟩

def enqueueOrSend (channel : Channel) (message : ClientMessage) : Channel :=
  if channel.connectionState = .connected ∧ channel.state = .joined then channel.spawn message
  else if channel.connectionState = .connected ∧ message.action = .joinChannel then channel.spawn message
  else { channel with queue := BoundedQueue.push channel.maxQueueSize channel.queue message }

def join (channel : Channel) (requestId : String) : Channel :=
  if channel.closed then channel
  else if channel.state = .joining ∨ channel.state = .joined ∨ channel.state = .declined then channel
  else ({ channel with state := .joining }).enqueueOrSend (channel.buildJoinMessage requestId)

def leave (channel : Channel) (requestId : String) : Channel :=
  if channel.closed then channel
  else
    let message : ClientMessage :=
      ⟨.leaveChannel, channel.name, ClientActions.leaveChannel.text, requestId, .empty⟩
    let sent := if channel.connectionState = .connected then channel.spawn message else channel
    { sent with state := .closed, closed := true, queue := [] }

def sendMessage (channel : Channel) (event : String) (payload : Dict) (requestId : String) : Channel :=
  if channel.closed then channel
  else channel.enqueueOrSend ⟨.broadcast, channel.name, event, requestId, payload⟩

def drainQueuedJoins (channel : Channel) : Channel :=
  channel.queue.foldl
    (fun drained message =>
      if message.action = .joinChannel then drained.spawn message
      else { drained with queue := BoundedQueue.push channel.maxQueueSize drained.queue message })
    { channel with queue := [] }

def handleConnectionState (before : Channel) (state : ConnectionState) (requestId : String) : Channel :=
  let channel := { before with connectionState := state }
  if channel.closed then channel
  else
    match state with
    | .connected =>
      if channel.state = .stalled then channel.spawn (channel.buildJoinMessage requestId)
      else if channel.state = .joining then channel.drainQueuedJoins
      else channel
    | .disconnected => if channel.state = .joined then { channel with state := .stalled } else channel
    | .connecting => channel

def flushQueue (channel : Channel) : Channel := channel.queue.foldl spawn { channel with queue := [] }

def acknowledge (channel : Channel) : Channel :=
  if channel.closed then channel
  else if channel.state = .joining ∨ channel.state = .stalled then ({ channel with state := .joined }).flushQueue
  else channel

def decline (channel : Channel) : Channel :=
  if channel.closed then channel
  else if channel.state = .joining ∨ channel.state = .stalled then { channel with state := .declined, queue := [] }
  else channel

def runTask (channel : Channel) : Channel :=
  match channel.tasks with
  | [] => channel
  | message :: rest => { channel with tasks := rest, handed := channel.handed ++ [message] }

def step (channel : Channel) : ChannelStep → Channel
  | .join requestId => channel.join requestId
  | .leave requestId => channel.leave requestId
  | .sendMessage event payload requestId => channel.sendMessage event payload requestId
  | .connection state requestId => channel.handleConnectionState state requestId
  | .acknowledge => channel.acknowledge
  | .decline => channel.decline
  | .runTask => channel.runTask

def isRunTask : ChannelStep → Bool
  | .runTask => true
  | _ => false

def IsJoin (message : ClientMessage) : Prop := message.action = .joinChannel

instance (message : ClientMessage) : Decidable (IsJoin message) :=
  inferInstanceAs (Decidable (message.action = .joinChannel))

def HandedLater (channel : Channel) : Prop :=
  ∀ later : List ChannelStep, channel.tasks.length ≤ later.countP isRunTask →
    ∃ message ∈ ((run step channel later).handed).drop channel.handed.length, IsJoin message

structure Spawns (before after : Channel) (messages : List ClientMessage) : Prop where
  limit : after.maxQueueSize = before.maxQueueSize
  tasks : after.tasks = before.tasks ++ messages
  handed : after.handed = before.handed

theorem spawns_none {connectionState : ConnectionState} {state : ChannelState}
    {queue : List ClientMessage} {closed : Bool} :
    channel.Spawns { channel with connectionState, state, queue, closed } [] :=
  ⟨rfl, (append_nil channel.tasks).symm, rfl⟩

theorem enqueue_or_send_spawns {message : ClientMessage} :
    ∃ messages, channel.Spawns (channel.enqueueOrSend message) messages := by
  simp only [enqueueOrSend]
  split
  · exact ⟨[message], rfl, rfl, rfl⟩
  split
  · exact ⟨[message], rfl, rfl, rfl⟩
  · exact ⟨[], spawns_none channel⟩

variable {messages : List ClientMessage}

theorem spawn_all (channel : Channel) :
    messages.foldl spawn channel = { channel with tasks := channel.tasks ++ messages } := by
  induction messages generalizing channel with
  | nil => simp
  | cons _ _ ih =>
    rw [foldl_cons, ih]
    simp [spawn]

theorem flush_queue :
    channel.flushQueue = { channel with queue := [], tasks := channel.tasks ++ channel.queue } :=
  spawn_all _

theorem drain_all {limit : Nat} (channel : Channel) (room : channel.queue.length + messages.length ≤ limit) :
    messages.foldl (fun drained message =>
          if message.action = .joinChannel then drained.spawn message
          else { drained with queue := BoundedQueue.push limit drained.queue message })
        channel =
      { channel with
        tasks := channel.tasks ++ messages.filter fun message => decide (IsJoin message),
        queue := channel.queue ++ messages.filter fun message => !decide (IsJoin message) } := by
  induction messages generalizing channel with
  | nil => simp
  | cons message _ ih =>
    rw [length_cons] at room
    rw [foldl_cons]
    by_cases joins : message.action = .joinChannel
    · have same : decide (IsJoin message) = true := decide_eq_true joins
      rw [if_pos joins, ih (channel.spawn message) (by simp only [spawn]; omega)]
      simp [spawn, same]
    have same : decide (IsJoin message) = false := decide_eq_false joins
    rw [if_neg joins, BoundedQueue.push_fits (by omega), ih _ (by simp; omega)]
    simp [same]

theorem drain_queued_joins (fits : channel.queue.length ≤ channel.maxQueueSize) :
    channel.drainQueuedJoins =
      { channel with
        tasks := channel.tasks ++ channel.queue.filter fun message => decide (IsJoin message),
        queue := channel.queue.filter fun message => !decide (IsJoin message) } :=
  drain_all { channel with queue := [] } (by simpa using fits)

theorem spawns_then {first second third : Channel} (messages later : List ClientMessage)
    (one : first.Spawns second messages) (two : second.Spawns third later) : first.Spawns third (messages ++ later) := by
  refine ⟨two.limit.trans one.limit, ?_, two.handed.trans one.handed⟩
  rw [two.tasks, one.tasks, append_assoc]

theorem spawns_fold {change : Channel → ClientMessage → Channel}
    (each : ∀ (channel : Channel) (message : ClientMessage), ∃ spawned, channel.Spawns (change channel message) spawned)
    (channel : Channel) : ∃ spawned, channel.Spawns (messages.foldl change channel) spawned := by
  induction messages generalizing channel with
  | nil => exact ⟨[], spawns_none channel⟩
  | cons message _ ih =>
    obtain ⟨first, one⟩ := each channel message
    obtain ⟨later, two⟩ := ih (change channel message)
    exact ⟨first ++ later, spawns_then first later one two⟩

theorem drain_queued_joins_spawns :
    ∃ messages, channel.Spawns channel.drainQueuedJoins messages := by
  have each : ∀ drained message, ∃ messages, Spawns drained (if message.action = .joinChannel then drained.spawn message
        else { drained with queue := BoundedQueue.push channel.maxQueueSize drained.queue message }) messages := by
    intro drained message
    split
    · exact ⟨[message], rfl, rfl, rfl⟩
    · exact ⟨[], spawns_none drained⟩
  obtain ⟨messages, spawned⟩ := spawns_fold each { channel with queue := [] }
  exact ⟨messages, spawned.limit, spawned.tasks, spawned.handed⟩

theorem handle_connection_spawns {state : ConnectionState} {requestId : String} :
    ∃ messages, channel.Spawns (channel.handleConnectionState state requestId) messages := by
  have told : channel.Spawns { channel with connectionState := state } [] := spawns_none channel
  simp only [handleConnectionState]
  split
  · exact ⟨[], told⟩
  cases state with
  | connected =>
    simp only
    split
    · exact ⟨_, rfl, rfl, rfl⟩
    split
    · obtain ⟨messages, spawned⟩ := drain_queued_joins_spawns { channel with connectionState := .connected }
      exact ⟨messages, spawned.limit, spawned.tasks, spawned.handed⟩
    · exact ⟨[], told⟩
  | disconnected =>
    simp only
    split
    · exact ⟨[], spawns_none channel⟩
    · exact ⟨[], told⟩
  | connecting => exact ⟨[], told⟩

theorem step_spawns {label : ChannelStep} (other : isRunTask label = false) :
    ∃ messages, channel.Spawns (channel.step label) messages := by
  have same : channel.Spawns channel [] := spawns_none channel
  cases label with
  | join =>
    simp only [step, join]
    split
    · exact ⟨[], same⟩
    split
    · exact ⟨[], same⟩
    · obtain ⟨messages, spawned⟩ := enqueue_or_send_spawns { channel with state := .joining }
      exact ⟨messages, spawned.limit, spawned.tasks, spawned.handed⟩
  | leave =>
    simp only [step, leave]
    split
    · exact ⟨[], same⟩
    split
    · exact ⟨_, rfl, rfl, rfl⟩
    · exact ⟨[], spawns_none channel⟩
  | sendMessage =>
    simp only [step, sendMessage]
    split
    · exact ⟨[], same⟩
    · exact enqueue_or_send_spawns channel
  | connection => exact handle_connection_spawns channel
  | acknowledge =>
    simp only [step, acknowledge]
    split
    · exact ⟨[], same⟩
    split
    · rw [flush_queue]
      exact ⟨_, rfl, rfl, rfl⟩
    · exact ⟨[], same⟩
  | decline =>
    simp only [step, decline]
    split
    · exact ⟨[], same⟩
    split
    · exact ⟨[], spawns_none channel⟩
    · exact ⟨[], same⟩
  | runTask => cases other

theorem run_hands {later : List ChannelStep} (channel : Channel) :
    channel.handed ++ channel.tasks.take (later.countP isRunTask) <+: (run step channel later).handed := by
  induction later generalizing channel with
  | nil => simp [run]
  | cons label rest ih =>
    have goes := ih (channel.step label)
    cases kind : isRunTask label with
    | false =>
      obtain ⟨_, spawned⟩ := step_spawns channel kind
      rw [spawned.handed, spawned.tasks] at goes
      rw [countP_cons_of_neg (by rw [kind]; exact Bool.false_ne_true)]
      refine List.IsPrefix.trans ?_ goes
      rw [take_append]
      exact (prefix_append_right_inj channel.handed).mpr (prefix_append _ _)
    | true =>
      rw [countP_cons_of_pos kind]
      cases label with
      | runTask =>
        have same : channel.handed ++ channel.tasks.take (rest.countP isRunTask + 1) =
            (channel.step .runTask).handed ++ (channel.step .runTask).tasks.take (rest.countP isRunTask) := by
          simp only [step, runTask]
          cases shape : channel.tasks with
          | nil => simp [shape]
          | cons => simp
        rw [same]
        exact goes
      | _ => cases kind

theorem run_tasks :
    (run step channel (List.replicate channel.tasks.length .runTask)).handed = channel.handed ++ channel.tasks := by
  generalize same : channel.tasks = tasks
  induction tasks generalizing channel with
  | nil => simp [run]
  | cons message rest ih =>
    have one : channel.step .runTask = { channel with tasks := rest, handed := channel.handed ++ [message] } := by
      simp [step, runTask, same]
    have next := ih (channel.step .runTask) (by rw [one])
    rw [one] at next
    exact (congrArg (fun state => (run step state (replicate rest.length .runTask)).handed) one).trans
      (by rw [next, append_assoc, singleton_append])

theorem handed_later_iff : channel.HandedLater ↔ ∃ message ∈ channel.tasks, IsJoin message := by
  constructor
  · intro hands
    have enough : channel.tasks.length ≤ (replicate channel.tasks.length ChannelStep.runTask).countP isRunTask := by
      rw [countP_replicate, if_pos (show isRunTask .runTask = true from rfl)]
    obtain ⟨message, member, joins⟩ := hands _ enough
    rw [run_tasks, drop_left] at member
    exact ⟨message, member, joins⟩
  · intro there later enough
    obtain ⟨message, member, joins⟩ := there
    obtain ⟨more, whole⟩ := run_hands channel
    rw [take_of_length_le enough] at whole
    refine ⟨message, ?_, joins⟩
    rw [← whole, append_assoc, drop_left]
    exact mem_append_left more member

end Channel

end PondSocket.Python.Client
