import PondSocket.Python.Channel
import PondSocket.Library.Places
import PondSocket.Library.Run

namespace PondSocket.Python

open Library List Channel
open Js (Json UserId NodeId)

-- remove_user in two parts: up to the publication that untrack awaits, and after the
-- leave handler.
def Channel.discardUser (channel : Channel) (moment : Moment) (userId : UserId) : Channel × Option Raised :=
  { channel with
    connections := channel.connections.delete userId
    assigns := channel.assigns.delete userId }.untrackPresence moment userId

def Channel.closeIfEmpty (channel : Channel) : Channel :=
  if channel.connections.isEmpty then channel.close else channel

theorem Channel.remove_user_parts (channel : Channel) (moment : Moment) (userId : UserId) (reason : String)
    (joined : channel.hasUser userId = true) :
    channel.removeUser moment userId reason false = andThen (channel.discardUser moment userId) fun channel =>
        ((channel.publishDistributed .userLeft [("userId", .string userId)]).closeIfEmpty, none) := by
  rw [removeUser, if_neg]
  · rfl
  rw [hasUser] at joined
  rw [joined]
  decide

-- A channel that a lobby has built, whose decline or leave has closed it, and whether
-- its on_destroy has run.
structure LobbyChannel where
  channel : Channel
  lobby : Nat
  closer : Option Transport
  destroyed : Bool

inductive JoinPhase where
  | pending
  | accepted
  | declined
  | finished
deriving DecidableEq

structure JoinTask where
  transport : Transport
  place : Nat
  phase : JoinPhase

structure LeaveTask where
  transport : Transport
  place : Nat

-- The lobbies of an endpoint, with all channels that they have built, and the calls
-- that are suspended.
structure EndpointRun where
  endpointPath : String
  nodeId : NodeId
  pubsub : Bool
  channels : List LobbyChannel
  lobbies : Nat → OrderedMap String Nat
  joins : List JoinTask
  leaves : List LeaveTask

inductive EndpointStep where
  | find (lobby : Nat) (name : String) (transport : Transport)
  | accept (join : Nat) (assigns : Dict)
  | decline (join : Nat)
  | check (join : Nat)
  | discard (place : Nat) (transport : Transport) (moment : Moment)
  | settle (leave : Nat)
  | destroy (place : Nat)

namespace LobbyChannel

def closeIfEmpty (object : LobbyChannel) (transport : Transport) : LobbyChannel :=
  if object.channel.connections.isEmpty && object.channel.active then
    { object with channel := object.channel.close, closer := some transport }
  else object

end LobbyChannel

namespace EndpointRun

def new (endpointPath : String) (nodeId : NodeId) (pubsub : Bool) : EndpointRun :=
  ⟨endpointPath, nodeId, pubsub, [], fun _ => .empty, [], []⟩

def update (run : EndpointRun) (place : Nat) (change : LobbyChannel → LobbyChannel) : EndpointRun :=
  { run with channels := run.channels.modify place change }

def setPhase (run : EndpointRun) (join : Nat) (phase : JoinPhase) : EndpointRun :=
  { run with joins := run.joins.modify join fun task => { task with phase := phase } }

def find (run : EndpointRun) (lobby : Nat) (name : String) (transport : Transport) : EndpointRun :=
  match (run.lobbies lobby).get? name with
  | some place => { run with joins := run.joins ++ [⟨transport, place, .pending⟩] }
  | none =>
    { run with
      channels := run.channels ++
        [⟨(Channel.new name run.endpointPath run.nodeId run.pubsub).start, lobby, none, false⟩]
      lobbies := fun other =>
        if other = lobby then (run.lobbies lobby).set name run.channels.length else run.lobbies other
      joins := run.joins ++ [⟨transport, run.channels.length, .pending⟩] }

-- accept has responded whether or not add_user raises.
def accept (run : EndpointRun) (join : Nat) (assigns : Dict) : EndpointRun :=
  match run.joins[join]? with
  | some ⟨transport, place, .pending⟩ =>
    (run.setPhase join .accepted).update place fun object =>
      { object with channel := (object.channel.addUser transport assigns).1 }
  | _ => run

def decline (run : EndpointRun) (join : Nat) : EndpointRun :=
  match run.joins[join]? with
  | some ⟨_, _, .pending⟩ => run.setPhase join .declined
  | _ => run

def check (run : EndpointRun) (join : Nat) : EndpointRun :=
  match run.joins[join]? with
  | some ⟨transport, place, .declined⟩ =>
    (run.setPhase join .finished).update place fun object => object.closeIfEmpty transport
  | _ => run

def discard (run : EndpointRun) (place : Nat) (transport : Transport) (moment : Moment) : EndpointRun :=
  match run.channels[place]? with
  | none => run
  | some object =>
    if object.channel.hasUser transport.id = false then run
    else
      match object.channel.discardUser moment transport.id with
      | (channel, some _) => run.update place fun object => { object with channel := channel }
      | (channel, none) =>
        { run.update place fun object => { object with channel := channel } with
          leaves := run.leaves ++ [⟨transport, place⟩] }

def settle (run : EndpointRun) (leave : Nat) : EndpointRun :=
  match run.leaves[leave]? with
  | none => run
  | some ⟨transport, place⟩ =>
    { run.update place fun object =>
        { object with
          channel := object.channel.publishDistributed .userLeft [("userId", .string transport.id)] }.closeIfEmpty
            transport with
      leaves := run.leaves.eraseIdx leave }

def destroy (run : EndpointRun) (place : Nat) : EndpointRun :=
  match run.channels[place]? with
  | none => run
  | some object =>
    if object.channel.active || object.destroyed then run
    else
      { run.update place fun object => { object with destroyed := true } with
        lobbies := fun other =>
          if other = object.lobby then (run.lobbies other).delete object.channel.name else run.lobbies other }

def step (run : EndpointRun) : EndpointStep → EndpointRun
  | .find lobby name transport => run.find lobby name transport
  | .accept join assigns => run.accept join assigns
  | .decline join => run.decline join
  | .check join => run.check join
  | .discard place transport moment => run.discard place transport moment
  | .settle leave => run.settle leave
  | .destroy place => run.destroy place

def Vacated (run : EndpointRun) : Prop :=
  ∀ object ∈ run.channels, object.channel.active = false → object.channel.connections.isEmpty = true

-- An accept for a transport that is not a member goes through, unless the client
-- itself has closed the channel.
def Joins (run : EndpointRun) : EndpointStep → Prop
  | .accept join assigns =>
    ∀ transport place object, run.joins[join]? = some ⟨transport, place, .pending⟩ →
      run.channels[place]? = some object → object.channel.hasUser transport.id = false →
        (object.channel.addUser transport assigns).2 = none ∨ object.closer = some transport
  | _ => True

-- Nobody else holds the channel for a join that is to be answered.
def Alone (run : EndpointRun) (place : Nat) (transport : Transport) : Prop :=
  ∀ task ∈ run.joins, task.phase = .pending → task.place = place → task.transport = transport

-- A channel that is found empty at the end of a decline or a leave is held by no join
-- of another client, and a join is not given a channel that another client has closed.
def Spared (run : EndpointRun) : EndpointStep → Prop
  | .find lobby name transport =>
    ∀ place object, (run.lobbies lobby).get? name = some place → run.channels[place]? = some object →
      object.channel.active = true ∨ object.closer = some transport
  | .check join =>
    ∀ transport place object, run.joins[join]? = some ⟨transport, place, .declined⟩ →
      run.channels[place]? = some object → object.channel.connections.isEmpty = true → object.channel.active = true →
        run.Alone place transport
  | .settle leave =>
    ∀ transport place object, run.leaves[leave]? = some ⟨transport, place⟩ →
      run.channels[place]? = some object → object.channel.connections.isEmpty = true → object.channel.active = true →
        run.Alone place transport
  | _ => True

def Held (run : EndpointRun) : Prop :=
  ∀ task ∈ run.joins, task.phase = .pending → ∀ object, run.channels[task.place]? = some object →
    object.channel.active = true ∨ object.closer = some task.transport

end EndpointRun

variable {moment : Moment} {transport : Transport}

namespace Channel

variable (channel : Channel)

theorem publish_membership (publication : Publication) :
    (channel.publish publication).active = channel.active ∧ (channel.publish publication).connections = channel.connections := by
  simp only [publish]
  split <;> exact ⟨rfl, rfl⟩

theorem dispatch_membership {room : Bool} {event : Event} {recipientIds : List UserId} :
    (channel.dispatchTo room event recipientIds).active = channel.active ∧
      (channel.dispatchTo room event recipientIds).connections = channel.connections := by
  simp only [dispatchTo, enqueueDispatch]
  split
  · exact ⟨rfl, rfl⟩
  split
  · exact ⟨rfl, rfl⟩
  · split <;> exact ⟨rfl, rfl⟩

variable {userId : UserId}

theorem untrack_membership :
    (channel.untrackPresence moment userId).1.active = channel.active ∧
      (channel.untrackPresence moment userId).1.connections = channel.connections := by
  simp only [untrackPresence, publishPresenceChange, publishEventToPubsub]
  split
  · exact ⟨rfl, rfl⟩
  split
  · exact ⟨rfl, rfl⟩
  obtain ⟨active, connections⟩ := publish_membership (dispatchTo _ moment.room _ _) (.event _ _)
  rw [active, connections]
  exact dispatch_membership _

theorem discard_membership :
    (channel.discardUser moment userId).1.active = channel.active ∧
      (channel.discardUser moment userId).1.connections = channel.connections.delete userId :=
  untrack_membership _

theorem add_user_cases {assigns : Dict} :
    (channel.addUser transport assigns).1.active = channel.active ∧
      (channel.active = false → (channel.addUser transport assigns).1.connections = channel.connections) ∧
        (channel.active = true → channel.hasUser transport.id = false → (channel.addUser transport assigns).2 = none) := by
  by_cases closed : channel.active = false
  · rw [addUser, if_pos closed]
    refine ⟨rfl, fun _ => rfl, fun active => ?_⟩
    rw [closed] at active
    cases active
  by_cases present : channel.connections.has transport.id = true
  · rw [addUser, if_neg closed, if_pos present]
    refine ⟨rfl, fun _ => rfl, fun _ absent => ?_⟩
    rw [hasUser, present] at absent
    cases absent
  · rw [addUser, if_neg closed, if_neg present]
    exact ⟨(publish_membership _ _).1, fun other => absurd other closed, fun _ _ => rfl⟩

theorem start_active : channel.start.active = true := by
  simp only [start]
  split
  · assumption
  · exact (publish_membership _ _).1

end Channel

namespace EndpointRun

variable (run : EndpointRun)

variable {place : Nat}

variable {change : LobbyChannel → LobbyChannel}

theorem vacated_update (vacated : run.Vacated)
    (fits : ∀ object, run.channels[place]? = some object → (change object).channel.active = false →
      (object.channel.active = false → object.channel.connections.isEmpty = true) →
        (change object).channel.connections.isEmpty = true) : (run.update place change).Vacated := by
  intro object member closed
  obtain ⟨index, there⟩ := mem_iff_getElem?.mp member
  obtain ⟨before, held, same⟩ := get_modify there
  have was := vacated before (mem_of_getElem? held)
  rw [same] at closed ⊢
  by_cases here : place = index
  · subst here
    rw [if_pos rfl] at closed ⊢
    exact fits before held closed was
  · rw [if_neg here] at closed ⊢
    exact was closed

theorem held_update (held : run.Held)
    (fits : ∀ object, run.channels[place]? = some object → ∀ task ∈ run.joins, task.phase = .pending → task.place = place →
      (object.channel.active = true ∨ object.closer = some task.transport) →
        (change object).channel.active = true ∨ (change object).closer = some task.transport) :
    (run.update place change).Held := by
  intro task member pending object there
  obtain ⟨before, was, same⟩ := get_modify there
  have fine := held task member pending before was
  by_cases here : place = task.place
  · rw [if_pos here] at same
    rw [same]
    exact fits before (here ▸ was) task member pending here.symm fine
  rw [if_neg here] at same
  rw [same]
  exact fine

variable {join : Nat}

variable {phase : JoinPhase}

theorem pending_set_phase (answered : phase ≠ .pending) {task : JoinTask}
    (member : task ∈ (run.setPhase join phase).joins) (pending : task.phase = .pending) : task ∈ run.joins := by
  obtain ⟨index, there⟩ := mem_iff_getElem?.mp member
  obtain ⟨_, held, same⟩ := get_modify there
  by_cases here : join = index
  · rw [if_pos here] at same
    rw [same] at pending
    exact absurd pending answered
  rw [if_neg here] at same
  rw [same]
  exact mem_of_getElem? held

theorem held_set_phase (answered : phase ≠ .pending) (held : run.Held) : (run.setPhase join phase).Held := by
  intro task member pending
  exact held task (pending_set_phase run answered member pending) pending

theorem close_if_empty_fits {object : LobbyChannel} :
    ((object.closeIfEmpty transport).channel.active = false →
      (object.channel.active = false → object.channel.connections.isEmpty = true) →
        (object.closeIfEmpty transport).channel.connections.isEmpty = true) ∧
      (∀ other, (object.channel.connections.isEmpty = true → object.channel.active = true → other = transport) →
        (object.channel.active = true ∨ object.closer = some other) →
          (object.closeIfEmpty transport).channel.active = true ∨ (object.closeIfEmpty transport).closer = some other) := by
  rw [LobbyChannel.closeIfEmpty]
  by_cases closes : (object.channel.connections.isEmpty && object.channel.active) = true
  · rw [if_pos closes]
    obtain ⟨empty, active⟩ := Bool.and_eq_true_iff.mp closes
    constructor
    · intro _ _
      rw [Channel.close, if_pos active]
      exact empty
    · intro other own _
      rw [own empty active]
      exact .inr rfl
  · rw [if_neg closes]
    exact ⟨fun closed was => was closed, fun other _ fine => fine⟩

theorem find_keeps {lobby : Nat} {name : String} :
    (run.Vacated → (run.find lobby name transport).Vacated) ∧
      (run.Held → run.Spared (.find lobby name transport) → (run.find lobby name transport).Held) := by
  rw [find]
  cases found : (run.lobbies lobby).get? name with
  | some place =>
    refine ⟨id, fun held spared task member pending object there => ?_⟩
    rcases mem_append.mp member with old | new
    · exact held task old pending object there
    · rw [mem_singleton.mp new] at there ⊢
      exact spared place object found there
  | none =>
    constructor
    · intro vacated object member closed
      rcases mem_append.mp member with old | new
      · exact vacated object old closed
      · rw [mem_singleton.mp new, start_active] at closed
        cases closed
    · intro held _ task member pending object there
      rcases get_concat there with old | ⟨_, new⟩
      · rcases mem_append.mp member with before | added
        · exact held task before pending object old
        · -- The new join holds the channel that is added.
          rw [mem_singleton.mp added] at old
          rw [getElem?_eq_none (Nat.le_refl _)] at old
          cases old
      · rw [new]
        exact .inl (start_active _)

theorem accept_keeps {assigns : Dict} :
    (run.Vacated → (run.accept join assigns).Vacated) ∧ (run.Held → (run.accept join assigns).Held) := by
  simp only [accept]
  split
  · constructor
    · intro vacated
      apply vacated_update (run.setPhase join .accepted) vacated
      intro object _ closed was
      obtain ⟨active, kept, _⟩ := object.channel.add_user_cases
      have before : object.channel.active = false := active.symm.trans closed
      rw [kept before]
      exact was before
    · intro held
      apply held_update _ (held_set_phase run (by decide) held)
      intro object _ task _ _ _ fine
      rw [object.channel.add_user_cases.1]
      exact fine
  · exact ⟨id, id⟩

theorem decline_keeps : (run.Vacated → (run.decline join).Vacated) ∧ (run.Held → (run.decline join).Held) := by
  simp only [decline]
  split
  · exact ⟨id, held_set_phase run (by decide)⟩
  · exact ⟨id, id⟩

theorem check_keeps :
    (run.Vacated → (run.check join).Vacated) ∧ (run.Held → run.Spared (.check join) → (run.check join).Held) := by
  simp only [check]
  split
  · rename_i transport place there
    constructor
    · intro vacated
      apply vacated_update (run.setPhase join .finished) vacated
      intro object _
      exact close_if_empty_fits.1
    · intro held spared
      apply held_update _ (held_set_phase run (by decide) held)
      intro object found task member pending here fine
      apply close_if_empty_fits.2 task.transport _ fine
      intro empty active
      exact spared transport place object there found empty active task
        (pending_set_phase run (by decide) member pending) pending here
  · exact ⟨id, fun held _ => held⟩

theorem discard_keeps :
    (run.Vacated → (run.discard place transport moment).Vacated) ∧
      (run.Held → (run.discard place transport moment).Held) := by
  simp only [discard]
  cases there : run.channels[place]? with
  | none => exact ⟨id, id⟩
  | some object =>
    obtain ⟨active, _⟩ := object.channel.discard_membership
    by_cases absent : object.channel.hasUser transport.id = false
    · simp only [if_pos absent]
      exact ⟨id, id⟩
    simp only [if_neg absent]
    -- A channel that has the user is active, or it has been left with a user.
    have vacated : run.Vacated →
        (run.update place fun object' => { object' with channel := (object.channel.discardUser moment transport.id).1 }).Vacated := by
      intro vacated
      apply vacated_update run vacated
      intro other found closed _
      have empty := vacated object (mem_of_getElem? there) (active.symm.trans closed)
      have nobody := OrderedMap.empty_iff.mp empty transport.id
      exact absurd nobody absent
    have held : run.Held →
        (run.update place fun object' => { object' with channel := (object.channel.discardUser moment transport.id).1 }).Held := by
      intro held
      apply held_update run held
      intro other found task _ _ _ fine
      rw [there] at found
      cases found
      rw [active]
      exact fine
    cases parts : object.channel.discardUser moment transport.id with
    | mk _ raised =>
      rw [parts] at vacated held
      cases raised <;> exact ⟨vacated, held⟩

theorem settle_keeps {leave : Nat} :
    (run.Vacated → (run.settle leave).Vacated) ∧ (run.Held → run.Spared (.settle leave) → (run.settle leave).Held) := by
  simp only [settle]
  cases there : run.leaves[leave]? with
  | none => exact ⟨id, fun held _ => held⟩
  | some task =>
    obtain ⟨transport, place⟩ := task
    have published := fun object : LobbyChannel =>
      object.channel.publish_membership (.distributed .userLeft [("userId", .string transport.id)])
    constructor
    · intro vacated
      apply vacated_update run vacated
      intro object _ closed was
      apply close_if_empty_fits.1 closed
      intro before
      rw [publishDistributed, (published object).2]
      exact was ((published object).1.symm.trans before)
    · intro held spared
      apply held_update run held
      intro object found other member pending here fine
      apply close_if_empty_fits.2 other.transport
      · intro empty active
        rw [publishDistributed, (published object).2] at empty
        rw [publishDistributed, (published object).1] at active
        exact spared transport place object there found empty active other member pending here
      · rw [publishDistributed, (published object).1]
        exact fine

theorem destroy_keeps :
    (run.Vacated → (run.destroy place).Vacated) ∧ (run.Held → (run.destroy place).Held) := by
  simp only [destroy]
  split
  · exact ⟨id, id⟩
  split
  · exact ⟨id, id⟩
  constructor
  · intro vacated
    exact vacated_update run vacated fun object _ closed was => was closed
  · intro held
    exact held_update run held fun object _ task _ _ _ fine => fine

theorem step_vacated {step : EndpointStep} (vacated : run.Vacated) : (run.step step).Vacated := by
  cases step with
  | find => exact (find_keeps run).1 vacated
  | accept => exact (accept_keeps run).1 vacated
  | decline => exact (decline_keeps run).1 vacated
  | check => exact (check_keeps run).1 vacated
  | discard => exact (discard_keeps run).1 vacated
  | settle => exact (settle_keeps run).1 vacated
  | destroy => exact (destroy_keeps run).1 vacated

theorem step_held (step : EndpointStep) (held : run.Held) (spared : run.Spared step) :
    (run.step step).Held := by
  cases step with
  | find => exact (find_keeps run).2 held spared
  | accept => exact (accept_keeps run).2 held
  | decline => exact (decline_keeps run).2 held
  | check => exact (check_keeps run).2 held spared
  | discard => exact (discard_keeps run).2 held
  | settle => exact (settle_keeps run).2 held spared
  | destroy => exact (destroy_keeps run).2 held

theorem joins_of_held {step : EndpointStep} (held : run.Held) : run.Joins step := by
  cases step with
  | accept =>
    intro transport place object waiting there absent
    rcases held _ (mem_of_getElem? waiting) rfl object there with active | own
    · exact .inl (object.channel.add_user_cases.2.2 active absent)
    · exact .inr own
  | _ => trivial

theorem joins_survive (endpointPath : String) (nodeId : NodeId) (pubsub : Bool) (steps : List EndpointStep) :
    Always step Vacated (new endpointPath nodeId pubsub) steps ∧
      (Follows step Spared (new endpointPath nodeId pubsub) steps → Follows step Joins (new endpointPath nodeId pubsub) steps) := by
  constructor
  · have all := follows_all step (fun _ _ => True) (new endpointPath nodeId pubsub) steps fun _ _ => trivial
    apply always_of_follows step (fun _ _ => True) Vacated _ _ _ all
    · intro run label vacated _
      exact step_vacated run vacated
    · intro object member
      cases member
  · intro spared
    apply follows_of_inv step Spared Joins Held step_held _ _ steps _ spared
    · intro run label held _
      exact joins_of_held run held
    · intro task member
      cases member

def alone : EndpointRun := new "/ws" "node" false

theorem joins_survive_decline :
    Always step Vacated alone [.find 0 "room" ⟨"a", 0⟩, .accept 0 .empty, .find 0 "room" ⟨"b", 1⟩, .decline 1, .check 1] ∧
      Follows step Joins alone
        [.find 0 "room" ⟨"a", 0⟩, .accept 0 .empty, .find 0 "room" ⟨"b", 1⟩, .decline 1, .check 1] := by
  obtain ⟨vacated, joins⟩ := joins_survive "/ws" "node" false
    [.find 0 "room" ⟨"a", 0⟩, .accept 0 .empty, .find 0 "room" ⟨"b", 1⟩, .decline 1, .check 1]
  refine ⟨vacated, joins ⟨?_, trivial, ?_, trivial, ?_, trivial⟩⟩
  · intro place object found
    cases found
  · intro place object found there
    cases found
    cases there
    exact .inl rfl
  · intro transport place object waiting there empty
    cases waiting
    cases there
    cases empty

theorem decline_closes_join :
    ¬ Follows step Joins alone
      [.find 0 "room" ⟨"a", 0⟩, .find 0 "room" ⟨"b", 1⟩, .decline 1, .check 1, .accept 0 .empty] := by
  rintro ⟨_, _, _, _, joins, _⟩
  rcases joins ⟨"a", 0⟩ 0 _ rfl rfl rfl with added | own
  · cases added
  · have same : "b" = "a" := congrArg Transport.id (Option.some.inj own)
    exact absurd same (by decide)

end EndpointRun

end PondSocket.Python
