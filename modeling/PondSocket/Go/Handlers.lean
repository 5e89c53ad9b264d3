import Mathlib.Data.List.Induction
import PondSocket.Go.Housed

namespace PondSocket.Go

open Library List
open Js (UserId NodeId)

inductive RequestAction where
  | joinChannel
  | leaveChannel
  | broadcast
  | unsupported
deriving DecidableEq

structure Request where
  action : RequestAction
  channelName : String
deriving DecidableEq

inductive Decision where
  | accept
  | decline
deriving DecidableEq

-- What is up to others in a step of a handler: the decision, the id of a new node, and
-- whether another node knows the user.
structure Choice where
  decision : Decision
  nodeId : NodeId
  remote : Bool

inductive HandlerStage where
  | start
  | registering (room : Nat)
  | joining (room : Nat)
  | leaving (room : Nat)
  | sending (room : Nat)
deriving DecidableEq

inductive Outcome where
  | accepted
  | declined
  | joinFailed (failure : Failure)
  | panicked
  | left
  | leaveFailed (failure : Failure)
  | delivered
  | rejected (failure : Failure)
  | notFound
  | unsupported
deriving DecidableEq

inductive Progress where
  | goes (stage : HandlerStage)
  | ends (outcome : Outcome)
deriving DecidableEq

structure MessageHandler where
  index : Nat
  request : Request
  stage : HandlerStage
deriving DecidableEq

structure Handled where
  index : Nat
  request : Request
  outcome : Outcome
deriving DecidableEq

structure MessageRun where
  user : Transport
  lobbyOf : String → Option Nat
  distributed : Bool
  heartbeatTimeout : Nat
  maxHandlers : Nat
  rooms : Rooms
  requests : List Request
  next : Nat
  handlers : List MessageHandler
  handled : List Handled

inductive OtherStep where
  | create (lobby : Nat) (name : String) (nodeId : NodeId)
  | register (room : Nat)
  | join (room : Nat) (user : Transport)
  | leave (room : Nat) (userId : UserId) (reason : String)
  | teardown (place : Nat)

inductive MessageStep where
  | receive (request : Request)
  | dispatch
  | run (place : Nat) (choice : Choice)
  | others (step : OtherStep)

namespace MessageRun

def new (user : Transport) (lobbyOf : String → Option Nat) (distributed : Bool) (heartbeatTimeout : Nat)
    (maxConcurrentHandlers : Int) : MessageRun where
  user := user
  lobbyOf := lobbyOf
  distributed := distributed
  heartbeatTimeout := heartbeatTimeout
  maxHandlers := if maxConcurrentHandlers ≤ 0 then 10 else maxConcurrentHandlers.toNat
  rooms := {}
  requests := []
  next := 0
  handlers := []
  handled := []

def joinChannel (run : MessageRun) (name : String) (choice : Choice) : Rooms × Progress :=
  match run.lobbyOf name with
  | none => (run.rooms, .ends .notFound)
  | some lobby =>
    match run.rooms.lobbies.get? (lobby, name) with
    | some room => (run.rooms, .goes (.joining room))
    | none =>
      if run.rooms.locked lobby then (run.rooms, .goes .start)
      else
        (run.rooms.create lobby name choice.nodeId run.distributed run.heartbeatTimeout,
          .goes (.registering run.rooms.rooms.length))

-- A channel that was refused is closed, and getOrCreateChannel returns nil for it
-- without an error.
def register (run : MessageRun) (room : Nat) : Rooms × Progress :=
  let rooms := run.rooms.register room
  match rooms.rooms[room]? with
  | none => (rooms, .ends .panicked)
  | some entry => if entry.registration = .stored then (rooms, .goes (.joining room)) else (rooms, .ends .panicked)

def answer (run : MessageRun) (room : Nat) (choice : Choice) : Rooms × Progress :=
  match run.rooms.rooms[room]? with
  | none => (run.rooms, .ends .panicked)
  | some entry =>
    match choice.decision with
    | .decline => (run.rooms, .ends .declined)
    | .accept =>
      (run.rooms.perform room (.addUser run.user),
        .ends (match (entry.channel.addUser run.user).2 with
          | none => .accepted
          | some failure => .joinFailed failure))

def readChannel (run : MessageRun) (name : String) (stage : Nat → HandlerStage) : Rooms × Progress :=
  match run.rooms.endpoint.get? name with
  | none => (run.rooms, .ends .notFound)
  | some room => (run.rooms, .goes (stage room))

def leaveChannel (run : MessageRun) (room : Nat) : Rooms × Progress :=
  match run.rooms.rooms[room]? with
  | none => (run.rooms, .ends .panicked)
  | some entry =>
    (run.rooms.perform room (.removeUser run.user.id "explicit_leave"),
      .ends (match (entry.channel.removeUser run.user.id "explicit_leave").2 with
        | none => .left
        | some failure => .leaveFailed failure))

def broadcast (channel : Channel) (userId : UserId) (choice : Choice) : Outcome :=
  match channel.checkState with
  | some failure => .rejected failure
  | none =>
    match channel.getUserUnsafe userId with
    | .ok _ => .delivered
    | .error failure => if channel.distributed && choice.remote then .delivered else .rejected failure

def sendMessage (run : MessageRun) (room : Nat) (choice : Choice) : Rooms × Progress :=
  match run.rooms.rooms[room]? with
  | none => (run.rooms, .ends .panicked)
  | some entry => (run.rooms, .ends (broadcast entry.channel run.user.id choice))

def handleMessage (run : MessageRun) (request : Request) (choice : Choice) : HandlerStage → Rooms × Progress
  | .start =>
    match request.action with
    | .joinChannel => run.joinChannel request.channelName choice
    | .leaveChannel => run.readChannel request.channelName .leaving
    | .broadcast => run.readChannel request.channelName .sending
    | .unsupported => (run.rooms, .ends .unsupported)
  | .registering room => run.register room
  | .joining room => run.answer room choice
  | .leaving room => run.leaveChannel room
  | .sending room => run.sendMessage room choice

def runHandler (run : MessageRun) (place : Nat) (choice : Choice) : MessageRun :=
  match run.handlers[place]? with
  | none => run
  | some handler =>
    let result := run.handleMessage handler.request choice handler.stage
    match result.2 with
    | .goes stage => { run with rooms := result.1, handlers := run.handlers.set place { handler with stage := stage } }
    | .ends outcome =>
      { run with
        rooms := result.1
        handlers := run.handlers.eraseIdx place
        handled := run.handled ++ [⟨handler.index, handler.request, outcome⟩] }

def dispatch (run : MessageRun) : MessageRun :=
  if run.handlers.length < run.maxHandlers then
    match run.requests[run.next]? with
    | none => run
    | some request => { run with next := run.next + 1, handlers := run.handlers ++ [⟨run.next, request, .start⟩] }
  else run

-- No other connection has the id of this one.
def actOthers (run : MessageRun) : OtherStep → Rooms
  | .create lobby name nodeId => run.rooms.create lobby name nodeId run.distributed run.heartbeatTimeout
  | .register room => run.rooms.register room
  | .join room user => if user.id = run.user.id then run.rooms else run.rooms.perform room (.addUser user)
  | .leave room userId reason =>
    if userId = run.user.id then run.rooms else run.rooms.perform room (.removeUser userId reason)
  | .teardown place => run.rooms.teardown place

def step (run : MessageRun) : MessageStep → MessageRun
  | .receive request => { run with requests := run.requests ++ [request] }
  | .dispatch => run.dispatch
  | .run place choice => run.runHandler place choice
  | .others step => { run with rooms := run.actOthers step }

end MessageRun

def Handled.Joins (entry : Handled) (name : String) : Prop :=
  entry.request = ⟨.joinChannel, name⟩ ∧ entry.outcome = .accepted

def Handled.Leaves (entry : Handled) (name : String) : Prop := entry.request = ⟨.leaveChannel, name⟩

def Handled.Refused (entry : Handled) (name : String) : Prop :=
  entry.request = ⟨.broadcast, name⟩ ∧ (entry.outcome = .notFound ∨ ∃ failure, entry.outcome = .rejected failure)

instance (entry : Handled) (name : String) : Decidable (entry.Joins name) :=
  inferInstanceAs (Decidable (_ ∧ _))

instance (entry : Handled) (name : String) : Decidable (entry.Leaves name) :=
  inferInstanceAs (Decidable (_ = _))

namespace MessageRun

variable (handled : List Handled)

structure Ordered (run : MessageRun) : Prop where
  order : (run.handled.map Handled.index).Pairwise (· < ·)
  heard : ∀ name, ∀ join ∈ run.handled, ∀ sent ∈ run.handled, join.Joins name → sent.Refused name →
    join.index < sent.index →
    ∃ between, join.index < between ∧ between < sent.index ∧ run.requests[between]? = some ⟨.leaveChannel, name⟩
  left : ∀ name, ∀ join ∈ run.handled, ∀ leave ∈ run.handled, join.request = ⟨.joinChannel, name⟩ → leave.Leaves name →
    join.index < leave.index → (∀ later, leave.index < later → run.requests[later]? ≠ some ⟨.joinChannel, name⟩) →
    ∀ room ∈ run.rooms.rooms, room.name = name → ¬ room.Holds run.user.id

def In (rooms : Rooms) (userId : UserId) (name : String) : Prop :=
  ∃ (place : Nat) (room : Room), rooms.rooms[place]? = some room ∧ room.name = name ∧ room.Holds userId

def Reads (run : MessageRun) (handler : MessageHandler) : Prop :=
  match handler.stage with
  | .start =>
    match handler.request.action with
    | .joinChannel => run.lobbyOf handler.request.channelName ≠ none
    | .leaveChannel | .broadcast => run.rooms.endpoint.has handler.request.channelName = true
    | .unsupported => False
  | .registering room => ∃ entry, run.rooms.rooms[room]? = some entry ∧ entry.registration = .pending ∧
      run.rooms.endpoint.has entry.name = false
  | _ => False

def Current (run : MessageRun) (handler : MessageHandler) : Prop :=
  match handler.stage with
  | .joining room => ∀ entry, run.rooms.rooms[room]? = some entry → entry.registration ≠ .pending
  | .leaving room | .sending room => run.rooms.endpoint.get? handler.request.channelName = some room ∨
      ¬ In run.rooms run.user.id handler.request.channelName
  | _ => True

-- A handler takes effect only after those of the earlier messages have ended, and the
-- goroutine of a teardown does not come to a channel that is in use again.
def InTurn (run : MessageRun) : MessageStep → Prop
  | .run place _ => ∀ handler, run.handlers[place]? = some handler → (place = 0 ∨ run.Reads handler) ∧ run.Current handler
  | .others (.teardown place) => run.rooms.Timely (.teardown place)
  | _ => True

def standing (handled : List Handled) (name : String) : Bool :=
  handled.foldl
    (fun stands entry => if entry.Joins name then true else if entry.Leaves name then false else stands) false

variable {handled}

theorem standing_concat (entry : Handled) (name : String) :
    standing (handled ++ [entry]) name =
      if entry.Joins name then true else if entry.Leaves name then false else standing handled name := by
  rw [standing, foldl_append]
  rfl

variable {name : String}

variable {entry : Handled}

theorem joins_leaves (joins : entry.Joins name) : ¬ entry.Leaves name := by
  intro leaves
  have same := joins.1.symm.trans leaves
  cases same

theorem sorted_concat (sorted : ((handled ++ [entry]).map Handled.index).Pairwise (· < ·)) :
    (handled.map Handled.index).Pairwise (· < ·) ∧ ∀ before ∈ handled, before.index < entry.index := by
  rw [map_append, pairwise_append] at sorted
  refine ⟨sorted.1, ?_⟩
  intro before member
  exact sorted.2.2 before.index (mem_map_of_mem member) entry.index (mem_singleton.mpr rfl)

theorem left_since {join : Handled} (sorted : (handled.map Handled.index).Pairwise (· < ·)) (member : join ∈ handled)
    (joins : join.Joins name) (gone : standing handled name = false) :
    ∃ leave ∈ handled, leave.Leaves name ∧ join.index < leave.index := by
  induction handled using reverseRecOn with
  | nil => cases member
  | append_singleton handled entry ih =>
    obtain ⟨before, last⟩ := sorted_concat sorted
    rw [standing_concat] at gone
    rcases mem_append.mp member with old | new
    · by_cases leaves : entry.Leaves name
      · exact ⟨entry, mem_append_right _ (mem_singleton.mpr rfl), leaves, last join old⟩
      · have still : standing handled name = false := by
          split at gone
          · cases gone
          · exact gone
        obtain ⟨leave, there, leaves, after⟩ := ih before old still
        exact ⟨leave, mem_append_left _ there, leaves, after⟩
    · rw [← mem_singleton.mp new, if_pos joins] at gone
      cases gone

theorem joined_since (sorted : (handled.map Handled.index).Pairwise (· < ·)) (stands : standing handled name = true) :
    ∃ join ∈ handled, join.Joins name ∧ ∀ leave ∈ handled, leave.Leaves name → leave.index < join.index := by
  induction handled using reverseRecOn with
  | nil => cases stands
  | append_singleton _ entry ih =>
    obtain ⟨before, last⟩ := sorted_concat sorted
    rw [standing_concat] at stands
    by_cases joins : entry.Joins name
    · refine ⟨entry, mem_append_right _ (mem_singleton.mpr rfl), joins, ?_⟩
      intro leave member leaves
      rcases mem_append.mp member with old | new
      · exact last leave old
      · rw [mem_singleton.mp new] at leaves
        exact absurd leaves (joins_leaves joins)
    rw [if_neg joins] at stands
    by_cases leaves : entry.Leaves name
    · rw [if_pos leaves] at stands
      cases stands
    rw [if_neg leaves] at stands
    obtain ⟨join, there, joins, after⟩ := ih before stands
    refine ⟨join, mem_append_left _ there, joins, ?_⟩
    intro leave member its
    rcases mem_append.mp member with old | new
    · exact after leave old its
    · rw [mem_singleton.mp new] at its
      exact absurd its leaves

end MessageRun

end PondSocket.Go
