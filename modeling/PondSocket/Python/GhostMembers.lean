import PondSocket.Python.Join
import PondSocket.Python.Teardown

namespace PondSocket.Python

open Library List OrderedMap EndpointRun
open Js (Json UserId NodeId)

variable {userId : UserId} {transport : Transport}

namespace Channel

variable (channel : Channel) (moment : Moment)

structure Same (before after : Channel) : Prop where
  name : after.name = before.name
  active : after.active = before.active
  connections : after.connections = before.connections
  assigns : after.assigns = before.assigns
  presence : after.presence = before.presence

theorem same_refl : Same channel channel := ⟨rfl, rfl, rfl, rfl, rfl⟩

theorem same_trans {first second third : Channel} (left : Same first second) (right : Same second third) :
    Same first third :=
  ⟨right.name.trans left.name, right.active.trans left.active, right.connections.trans left.connections,
    right.assigns.trans left.assigns, right.presence.trans left.presence⟩

theorem publish_same (publication : Publication) : Same channel (channel.publish publication) := by
  rw [publish]
  split
  · exact ⟨rfl, rfl, rfl, rfl, rfl⟩
  · exact same_refl channel

theorem dispatch_same {room : Bool} {event : Event} {recipientIds : List UserId} :
    Same channel (channel.dispatchTo room event recipientIds) := by
  rw [dispatchTo, enqueueDispatch]
  split
  · exact same_refl channel
  split
  · exact same_refl channel
  split
  · exact ⟨rfl, rfl, rfl, rfl, rfl⟩
  · exact same_refl channel

variable {eventType : PresenceEventTypes}

theorem presence_change_same {changed : Dict} :
    Same channel (channel.publishPresenceChange moment eventType userId changed).1 := by
  rw [publishPresenceChange]
  split
  · exact same_refl channel
  · exact same_trans (dispatch_same channel) (publish_same _ _)

theorem presence_change_raises {changed : Dict} (named : channel.name ≠ "") :
    (channel.publishPresenceChange moment eventType userId changed).2 = none := by
  have checked : (channel.presenceChange moment.uuid eventType userId changed).checked =
      some (channel.presenceChange moment.uuid eventType userId changed) := by
    apply Event.checked_complete
    · exact (by decide : "PRESENCE" ≠ "")
    · exact named
    · exact moment.drawn
    · change eventType.value ≠ ""
      cases eventType <;> decide
  rw [publishPresenceChange, checked]

theorem discard_same (userId : UserId) :
    Same { channel with
      connections := channel.connections.delete userId
      assigns := channel.assigns.delete userId
      presence := channel.presence.delete userId } (channel.discardUser moment userId).1 := by
  rw [discardUser, untrackPresence]
  split
  · rename_i absent
    have none : channel.presence.delete userId = channel.presence :=
      delete_absent (has_false_iff.mpr absent)
    exact ⟨rfl, rfl, rfl, rfl, none.symm⟩
  · exact presence_change_same _ _

theorem discard_raises (named : channel.name ≠ "") : (channel.discardUser moment userId).2 = none := by
  rw [discardUser, untrackPresence]
  split
  · rfl
  · exact presence_change_raises _ _ named

theorem track_same {data : Dict} :
    Same channel (channel.trackPresence moment userId data).1 ∨ channel.presence.has userId = false ∧
        Same { channel with presence := channel.presence.set userId data } (channel.trackPresence moment userId data).1 := by
  rw [trackPresence]
  split
  · exact .inl (same_refl channel)
  · rename_i absent
    exact .inr ⟨Bool.eq_false_iff.mpr absent, presence_change_same _ _⟩

theorem start_same (name endpointPath : String) (nodeId : NodeId) (pubsub : Bool) :
    Same { Channel.new name endpointPath nodeId pubsub with active := true }
      (Channel.new name endpointPath nodeId pubsub).start :=
  publish_same _ _

theorem add_same {assigns : Dict} :
    Same channel (channel.addUser transport assigns).1 ∨ channel.active = true ∧ channel.hasUser transport.id = false ∧
        Same { channel with
          connections := channel.connections.set transport.id transport
          assigns := channel.assigns.set transport.id assigns } (channel.addUser transport assigns).1 := by
  rw [addUser]
  split
  · exact .inl (same_refl channel)
  rename_i active
  split
  · exact .inl (same_refl channel)
  · rename_i absent
    exact .inr ⟨(Bool.not_eq_false _).mp active, Bool.eq_false_iff.mpr absent, publish_same _ _⟩

end Channel

-- Where the closing of a transport is: the lobbies that are still to be listed and the
-- channels of the last list that are still to be looked at.
inductive Client where
  | unknown
  | connected
  | walking (lobbies places : List Nat)
  | removing (place : Nat) (lobbies places : List Nat)
  | closed
deriving DecidableEq

def Client.Ahead : Client → Nat → Nat → Prop
  | .connected, _, _ => True
  | .walking lobbies places, place, lobby | .removing _ lobbies places, place, lobby => lobby ∈ lobbies ∨ place ∈ places
  | .unknown, _, _ | .closed, _, _ => False

structure GhostRun where
  run : EndpointRun
  registrations : List Nat
  connections : OrderedMap UserId Transport
  clients : UserId → Client

-- What runs between two suspensions, as for the channels; a join handler that has
-- accepted may track its client, and goes on until it finishes.
inductive GhostStep where
  | register (transport : Transport)
  | join (lobby : Nat) (request : JoinRequest) (transport : Transport)
  | accept (join : Nat) (assigns : Dict)
  | track (join : Nat) (data : Dict) (moment : Moment)
  | decline (join : Nat)
  | check (join : Nat)
  | finish (join : Nat)
  | leave (name : String) (transport : Transport) (moment : Moment)
  | settle (leave : Nat)
  | destroy (place : Nat)
  | close (userId : UserId)
  | list (userId : UserId)
  | visit (userId : UserId) (moment : Moment)
  | removed (userId : UserId)
  | disconnect (userId : UserId)

namespace GhostRun

def new (endpointPath : String) (nodeId : NodeId) (pubsub : Bool) (registrations : List Nat) : GhostRun :=
  ⟨EndpointRun.new endpointPath nodeId pubsub, registrations, .empty, fun _ => .unknown⟩

def setClient (state : GhostRun) (userId : UserId) (client : Client) : GhostRun :=
  { state with clients := fun other => if other = userId then client else state.clients other }

-- push_message takes a message while the transport is active.
def isActive (state : GhostRun) (transport : Transport) : Bool :=
  decide (state.clients transport.id = .connected) && decide (state.connections.get? transport.id = some transport)

def register (state : GhostRun) (transport : Transport) : GhostRun :=
  if state.clients transport.id = .unknown then
    { state.setClient transport.id .connected with connections := state.connections.set transport.id transport }
  else state

def join (state : GhostRun) (lobby : Nat) (request : JoinRequest) (transport : Transport) : GhostRun :=
  if state.isActive transport ∧ lobby ∈ state.registrations then
    { state with run := state.run.find lobby request.channelName transport }
  else state

def track (state : GhostRun) (join : Nat) (data : Dict) (moment : Moment) : GhostRun :=
  match state.run.joins[join]? with
  | some ⟨transport, place, .accepted⟩ =>
    { state with
      run := state.run.update place fun object =>
        { object with channel := (object.channel.trackPresence moment transport.id data).1 } }
  | _ => state

def finish (state : GhostRun) (join : Nat) : GhostRun :=
  match state.run.joins[join]? with
  | some ⟨_, _, .accepted⟩ => { state with run := state.run.setPhase join .finished }
  | _ => state

def findChannel (state : GhostRun) (name : String) : Option Nat :=
  state.registrations.findSome? fun lobby => (state.run.lobbies lobby).get? name

def leave (state : GhostRun) (name : String) (transport : Transport) (moment : Moment) : GhostRun :=
  if state.isActive transport then
    match state.findChannel name with
    | none => state
    | some place => { state with run := state.run.discard place transport moment }
  else state

def close (state : GhostRun) (userId : UserId) : GhostRun :=
  match state.clients userId with
  | .connected => state.setClient userId (.walking state.registrations [])
  | _ => state

def list (state : GhostRun) (userId : UserId) : GhostRun :=
  match state.clients userId with
  | .walking (lobby :: lobbies) [] => state.setClient userId (.walking lobbies (state.run.lobbies lobby).values)
  | _ => state

def visit (state : GhostRun) (userId : UserId) (moment : Moment) : GhostRun :=
  match state.clients userId with
  | .walking lobbies (place :: places) =>
    match state.run.channels[place]? with
    | none => state.setClient userId (.walking lobbies places)
    | some object =>
      if object.channel.hasUser userId = false then state.setClient userId (.walking lobbies places)
      else
        let removed := { state with
          run := state.run.update place fun object =>
            { object with channel := (object.channel.discardUser moment userId).1 } }
        match (object.channel.discardUser moment userId).2 with
        | some _ => removed.setClient userId .closed
        | none => removed.setClient userId (.removing place lobbies places)
  | _ => state

def removed (state : GhostRun) (userId : UserId) : GhostRun :=
  match state.clients userId, state.connections.get? userId with
  | .removing place lobbies places, some transport =>
    { state with
      run := state.run.update place fun object =>
        { object with
          channel := object.channel.publishDistributed .userLeft [("userId", .string userId)] }.closeIfEmpty
            transport }.setClient userId (.walking lobbies places)
  | _, _ => state

def disconnect (state : GhostRun) (userId : UserId) : GhostRun :=
  match state.clients userId with
  | .walking [] [] => { state.setClient userId .closed with connections := state.connections.delete userId }
  | _ => state

def step (state : GhostRun) : GhostStep → GhostRun
  | .register transport => state.register transport
  | .join lobby request transport => state.join lobby request transport
  | .accept join assigns => { state with run := state.run.accept join assigns }
  | .track join data moment => state.track join data moment
  | .decline join => { state with run := state.run.decline join }
  | .check join => { state with run := state.run.check join }
  | .finish join => state.finish join
  | .leave name transport moment => state.leave name transport moment
  | .settle leave => { state with run := state.run.settle leave }
  | .destroy place => { state with run := state.run.destroy place }
  | .close userId => state.close userId
  | .list userId => state.list userId
  | .visit userId moment => state.visit userId moment
  | .removed userId => state.removed userId
  | .disconnect userId => state.disconnect userId

end GhostRun

def LobbyChannel.holds (object : LobbyChannel) (userId : UserId) : Bool :=
  object.channel.connections.has userId || object.channel.assigns.has userId || object.channel.presence.has userId

namespace GhostRun

variable (state : GhostRun) (place : Nat) (object : LobbyChannel)

def Done (state : GhostRun) (userId : UserId) : Prop :=
  state.clients userId = .closed ∧ (∀ task ∈ state.run.joins, task.transport.id = userId → task.phase = .finished) ∧
    ∀ task ∈ state.run.leaves, task.transport.id ≠ userId

def NoGhosts (state : GhostRun) : Prop :=
  ∀ userId, state.Done userId → state.connections.has userId = false ∧
    ∀ (lobby : Nat) (name : String) (place : Nat) (object : LobbyChannel), (state.run.lobbies lobby).get? name = some place →
      state.run.channels[place]? = some object → object.holds userId = false

def Ahead (state : GhostRun) (userId : UserId) (place lobby : Nat) : Prop := (state.clients userId).Ahead place lobby

-- A client is let into a channel, and is tracked in it, only while its transport is
-- open or the closing has still to come to the channel.
def Timely (state : GhostRun) : GhostStep → Prop
  | .accept join _ =>
    ∀ transport place object, state.run.joins[join]? = some ⟨transport, place, .pending⟩ →
      state.run.channels[place]? = some object → object.channel.active = true →
        object.channel.hasUser transport.id = false → state.Ahead transport.id place object.lobby
  | .track join _ _ =>
    ∀ transport place object, state.run.joins[join]? = some ⟨transport, place, .accepted⟩ →
      state.run.channels[place]? = some object → object.channel.presence.has transport.id = false →
        object.channel.hasUser transport.id = true
  | _ => True

theorem holds_iff (userId : UserId) :
    object.holds userId = true ↔ object.channel.connections.has userId = true ∨
      object.channel.assigns.has userId = true ∨ object.channel.presence.has userId = true := by
  rw [LobbyChannel.holds, Bool.or_eq_true, Bool.or_eq_true, or_assoc]

variable {before after : LobbyChannel}

theorem holds_same (same : Channel.Same before.channel after.channel) (userId : UserId) :
    after.holds userId = before.holds userId := by
  rw [LobbyChannel.holds, LobbyChannel.holds, same.connections, same.assigns, same.presence]

structure Sound (state : GhostRun) (place : Nat) (object : LobbyChannel) : Prop where
  named : object.channel.name ≠ ""
  alive : object.channel.active = true → object.destroyed = false
  vacated : object.channel.active = false → object.channel.connections.isEmpty = true
  listed : object.destroyed = false →
    object.lobby ∈ state.registrations ∧ (state.run.lobbies object.lobby).get? object.channel.name = some place
  members : ∀ userId, object.holds userId = true →
    object.channel.connections.has userId = true ∧ state.Ahead userId place object.lobby

structure Clean (state : GhostRun) : Prop where
  channels : ∀ place object, state.run.channels[place]? = some object → state.Sound place object
  placed : ∀ lobby name place, (state.run.lobbies lobby).get? name = some place → place < state.run.channels.length
  gone : ∀ userId, state.clients userId = .closed → state.connections.has userId = false

theorem clean_new {endpointPath : String} {nodeId : NodeId} {pubsub : Bool} {registrations : List Nat} :
    Clean (new endpointPath nodeId pubsub registrations) := by
  refine ⟨?_, ?_, ?_⟩
  · intro place object found
    cases found
  · intro lobby name place found
    cases found
  · intro userId closed
    cases closed

theorem clean_no_ghosts (clean : Clean state) : state.NoGhosts := by
  intro userId done
  refine ⟨clean.gone userId done.1, ?_⟩
  intro lobby name place object _ found
  rw [Bool.eq_false_iff]
  intro holds
  have ahead := ((clean.channels place object found).members userId holds).2
  rw [Ahead, done.1] at ahead
  exact ahead

structure Fits (state : GhostRun) (place : Nat) (before after : LobbyChannel) : Prop where
  lobby : after.lobby = before.lobby
  destroyed : after.destroyed = before.destroyed
  name : after.channel.name = before.channel.name
  active : after.channel.active = true → before.channel.active = true
  vacated : after.channel.active = false → after.channel.connections.isEmpty = true
  members : ∀ userId, after.holds userId = true →
    after.channel.connections.has userId = true ∧ state.Ahead userId place before.lobby

theorem sound_fits (sound : state.Sound place before) (fits : state.Fits place before after) :
    state.Sound place after := by
  refine ⟨?_, ?_, fits.vacated, ?_, ?_⟩
  · rw [fits.name]
    exact sound.named
  · intro active
    rw [fits.destroyed]
    exact sound.alive (fits.active active)
  · rw [fits.destroyed, fits.lobby, fits.name]
    exact sound.listed
  · rw [fits.lobby]
    exact fits.members

theorem clean_update (change : LobbyChannel → LobbyChannel) (clean : Clean state)
    (fits : ∀ object, state.run.channels[place]? = some object → state.Fits place object (change object))
    (next : GhostRun) (registrations : next.registrations = state.registrations)
    (channels : next.run.channels = state.run.channels.modify place change) (lobbies : next.run.lobbies = state.run.lobbies)
    (clients : next.clients = state.clients)
    (gone : ∀ userId, next.clients userId = .closed → next.connections.has userId = false) : Clean next := by
  have ahead : ∀ userId place lobby, next.Ahead userId place lobby ↔ state.Ahead userId place lobby := by
    intro userId place lobby
    rw [Ahead, Ahead, clients]
  have moved : ∀ place object, state.Sound place object → next.Sound place object := by
    intro place object sound
    refine ⟨sound.named, sound.alive, sound.vacated, ?_, ?_⟩
    · rw [registrations, lobbies]
      exact sound.listed
    · intro userId holds
      exact ⟨(sound.members userId holds).1, (ahead userId place object.lobby).mpr (sound.members userId holds).2⟩
  refine ⟨?_, ?_, gone⟩
  · intro other object found
    rw [channels] at found
    obtain ⟨before, held, same⟩ := get_modify found
    have sound := clean.channels other before held
    apply moved
    by_cases here : place = other
    · subst here
      rw [same, if_pos rfl]
      exact sound_fits state place sound (fits before held)
    · rw [same, if_neg here]
      exact sound
  · intro lobby name other found
    rw [lobbies] at found
    rw [channels, length_modify]
    exact clean.placed lobby name other found

theorem clean_same {state next : GhostRun} (clean : Clean state) (registrations : next.registrations = state.registrations)
    (channels : next.run.channels = state.run.channels) (lobbies : next.run.lobbies = state.run.lobbies)
    (clients : next.clients = state.clients)
    (gone : ∀ userId, next.clients userId = .closed → next.connections.has userId = false) : Clean next := by
  refine clean_update state state.run.channels.length id clean ?_ next registrations ?_ lobbies clients gone
  · intro object found
    rw [getElem?_eq_none (Nat.le_refl _)] at found
    cases found
  · rw [channels, modify_id]

variable {place object}

theorem fits_same {channel : Channel}
    (sound : state.Sound place object) (same : Channel.Same object.channel channel) :
    state.Fits place object { object with channel := channel } := by
  refine ⟨rfl, rfl, same.name, fun active => same.active ▸ active, ?_, ?_⟩
  · intro closed
    rw [same.active] at closed
    rw [same.connections]
    exact sound.vacated closed
  intro userId holds
  rw [holds_same same] at holds
  rw [same.connections]
  exact sound.members userId holds

theorem fits_close (transport : Transport)
    (sound : state.Sound place object) : state.Fits place object (object.closeIfEmpty transport) := by
  rw [LobbyChannel.closeIfEmpty]
  split
  · rename_i closes
    obtain ⟨empty, active⟩ := Bool.and_eq_true_iff.mp closes
    rw [Channel.close, if_pos active]
    refine ⟨rfl, rfl, rfl, ?_, fun _ => empty, sound.members⟩
    intro no
    cases no
  · exact ⟨rfl, rfl, rfl, id, sound.vacated, sound.members⟩

theorem clean_client (userId : UserId) (client : Client) (clean : Clean state)
    (keeps : ∀ place object, state.run.channels[place]? = some object → object.holds userId = true →
      state.Ahead userId place object.lobby → client.Ahead place object.lobby)
    (finished : client = .closed → state.connections.has userId = false) : Clean (state.setClient userId client) := by
  refine ⟨?_, clean.placed, ?_⟩
  · intro place object found
    have sound := clean.channels place object found
    refine ⟨sound.named, sound.alive, sound.vacated, sound.listed, ?_⟩
    intro other holds
    obtain ⟨member, ahead⟩ := sound.members other holds
    refine ⟨member, ?_⟩
    rw [Ahead, setClient]
    by_cases same : other = userId
    · simp only [if_pos same]
      rw [same] at holds ahead
      exact keeps place object found holds ahead
    · simp only [if_neg same]
      exact ahead
  · intro other closed
    rw [setClient] at closed
    by_cases same : other = userId
    · simp only [if_pos same] at closed
      rw [same]
      exact finished closed
    · simp only [if_neg same] at closed
      exact clean.gone other closed

theorem clean_register (clean : Clean state) : Clean (state.register transport) := by
  rw [register]
  split
  · have base := clean_client state transport.id .connected clean (fun _ _ _ _ _ => trivial) (fun same => by cases same)
    refine clean_same base rfl rfl rfl rfl ?_
    intro userId closed
    have other : userId ≠ transport.id := by
      intro same
      simp only [setClient, if_pos same] at closed
      cases closed
    have before := base.gone userId closed
    rw [Bool.eq_false_iff, Ne, has_set, not_or]
    exact ⟨other, Bool.eq_false_iff.mp before⟩
  · exact clean

variable {lobby : Nat}

theorem clean_find {name : String} (named : name ≠ "") (known : lobby ∈ state.registrations) (clean : Clean state) :
    Clean { state with run := state.run.find lobby name transport } := by
  rw [find]
  cases there : (state.run.lobbies lobby).get? name with
  | some => exact clean_same clean rfl rfl rfl rfl clean.gone
  | none =>
    -- The name is free, so the entries of the channels stay.
    have entries : ∀ other key place, (state.run.lobbies other).get? key = some place →
        (if other = lobby then (state.run.lobbies lobby).set name state.run.channels.length
          else state.run.lobbies other).get? key = some place := by
      intro other key place found
      by_cases same : other = lobby
      · rw [if_pos same, OrderedMap.get_set]
        rw [same] at found
        rw [if_neg]
        · exact found
        intro equal
        rw [equal, there] at found
        cases found
      · rw [if_neg same]
        exact found
    refine ⟨?_, ?_, clean.gone⟩
    · intro place object found
      rcases get_concat found with old | ⟨last, new⟩
      · have sound := clean.channels place object old
        refine ⟨sound.named, sound.alive, sound.vacated, ?_, sound.members⟩
        intro standing
        exact ⟨(sound.listed standing).1, entries _ _ _ (sound.listed standing).2⟩
      have start := Channel.start_same name state.run.endpointPath state.run.nodeId state.run.pubsub
      rw [new, last]
      refine ⟨?_, fun _ => rfl, ?_, ?_, ?_⟩
      · rw [start.name]
        exact named
      · intro closed
        rw [start.active] at closed
        cases closed
      · intro _
        refine ⟨known, ?_⟩
        dsimp only
        rw [start.name, if_pos rfl, OrderedMap.get_set]
        exact if_pos rfl
      · intro userId holds
        rw [holds_iff] at holds
        rw [start.connections, start.assigns, start.presence] at holds
        rcases holds with member | held | tracked
        · cases member
        · cases held
        · cases tracked
    · intro other key place found
      rw [length_append, length_singleton]
      dsimp only at found
      by_cases same : other = lobby
      · rw [if_pos same, OrderedMap.get_set] at found
        split at found
        · cases found
          exact Nat.lt_succ_self _
        · exact Nat.lt_succ_of_lt (clean.placed lobby key place found)
      · rw [if_neg same] at found
        exact Nat.lt_succ_of_lt (clean.placed other key place found)

theorem clean_join {request : JoinRequest} (clean : Clean state) : Clean (state.join lobby request transport) := by
  rw [join]
  split
  · rename_i both
    exact clean_find state request.named both.2 clean
  · exact clean

theorem clean_accept {join : Nat} {assigns : Dict} (clean : Clean state)
    (timely : state.Timely (.accept join assigns)) : Clean { state with run := state.run.accept join assigns } := by
  simp only [accept]
  split
  · rename_i transport place pending
    refine clean_update state place (fun object =>
      { object with channel := (object.channel.addUser transport assigns).1 }) clean ?_ _ rfl rfl rfl rfl clean.gone
    intro object found
    have sound := clean.channels place object found
    rcases object.channel.add_same with same | ⟨active, absent, same⟩
    · exact fits_same state sound same
    have ahead := timely transport place object pending found active absent
    refine ⟨rfl, rfl, same.name, fun _ => active, ?_, ?_⟩
    · intro closed
      rw [same.active, active] at closed
      cases closed
    intro userId holds
    rw [holds_iff, same.connections, same.assigns, same.presence, has_set, has_set] at holds
    rw [same.connections, has_set]
    by_cases own : userId = transport.id
    · rw [own]
      exact ⟨.inl rfl, ahead⟩
    have before : object.holds userId = true := by
      rw [holds_iff]
      rcases holds with (new | member) | (new | held) | tracked
      · exact absurd new own
      · exact .inl member
      · exact absurd new own
      · exact .inr (.inl held)
      · exact .inr (.inr tracked)
    obtain ⟨member, kept⟩ := sound.members userId before
    exact ⟨.inr member, kept⟩
  · exact clean

theorem clean_track {join : Nat} {data : Dict} {moment : Moment} (clean : Clean state)
    (timely : state.Timely (.track join data moment)) : Clean (state.track join data moment) := by
  rw [track]
  split
  · rename_i transport place accepted
    refine clean_update state place (fun object =>
      { object with channel := (object.channel.trackPresence moment transport.id data).1 }) clean ?_ _ rfl rfl rfl rfl clean.gone
    intro object found
    have sound := clean.channels place object found
    rcases object.channel.track_same moment with same | ⟨absent, same⟩
    · exact fits_same state sound same
    have present := timely transport place object accepted found absent
    refine ⟨rfl, rfl, same.name, fun active => same.active ▸ active, ?_, ?_⟩
    · intro closed
      rw [same.active] at closed
      rw [same.connections]
      exact sound.vacated closed
    intro userId holds
    rw [holds_iff, same.connections, same.assigns, same.presence, has_set] at holds
    rw [same.connections]
    have before : object.holds userId = true := by
      rw [holds_iff]
      rcases holds with member | held | own | tracked
      · exact .inl member
      · exact .inr (.inl held)
      · rw [own]
        exact .inl present
      · exact .inr (.inr tracked)
    exact sound.members userId before
  · exact clean

theorem clean_check {join : Nat} (clean : Clean state) :
    Clean { state with run := state.run.check join } := by
  simp only [check]
  split
  · rename_i transport place declined
    refine clean_update state place (fun object => object.closeIfEmpty transport) clean ?_ _ rfl rfl rfl rfl clean.gone
    intro object found
    exact fits_close state transport (clean.channels place object found)
  · exact clean

theorem clean_decline {join : Nat} (clean : Clean state) :
    Clean { state with run := state.run.decline join } := by
  simp only [EndpointRun.decline]
  split
  · exact clean_same clean rfl rfl rfl rfl clean.gone
  · exact clean

theorem clean_finish {join : Nat} (clean : Clean state) : Clean (state.finish join) := by
  rw [finish]
  split
  · exact clean_same clean rfl rfl rfl rfl clean.gone
  · exact clean

theorem discard_holds {moment : Moment} {other : UserId} :
    ({ object with channel := (object.channel.discardUser moment userId).1 } : LobbyChannel).holds other = true ↔
      other ≠ userId ∧ object.holds other = true := by
  have same := object.channel.discard_same moment userId
  rw [holds_iff, holds_iff, same.connections, same.assigns, same.presence, has_delete, has_delete, has_delete]
  tauto

theorem fits_discard {moment : Moment} (sound : state.Sound place object) :
    state.Fits place object { object with channel := (object.channel.discardUser moment userId).1 } := by
  have same := object.channel.discard_same moment userId
  refine ⟨rfl, rfl, same.name, fun active => same.active ▸ active, ?_, ?_⟩
  · intro closed
    rw [same.active] at closed
    have nobody := empty_iff.mp (sound.vacated closed)
    rw [same.connections, empty_iff]
    intro key
    rw [Bool.eq_false_iff, Ne, has_delete]
    intro both
    rw [nobody key] at both
    cases both.2
  · intro other holds
    obtain ⟨different, before⟩ := discard_holds.mp holds
    obtain ⟨member, ahead⟩ := sound.members other before
    rw [same.connections]
    exact ⟨has_delete.mpr ⟨different, member⟩, ahead⟩

theorem clean_discard {moment : Moment} (clean : Clean state) :
    Clean { state with run := state.run.discard place transport moment } := by
  simp only [EndpointRun.discard]
  cases there : state.run.channels[place]? with
  | none => exact clean
  | some object =>
    dsimp only
    split
    · exact clean
    have fits : ∀ before, state.run.channels[place]? = some before → state.Fits place before
        { before with channel := (object.channel.discardUser moment transport.id).1 } := by
      intro before found
      rw [there] at found
      cases found
      exact fits_discard state (clean.channels place object there)
    cases parts : object.channel.discardUser moment transport.id with
    | mk _ raised =>
      rw [parts] at fits
      cases raised with
      | none | some => exact clean_update state place _ clean fits _ rfl rfl rfl rfl clean.gone

theorem clean_leave {name : String} {moment : Moment} (clean : Clean state) :
    Clean (state.leave name transport moment) := by
  rw [leave]
  split
  · split
    · exact clean
    · exact clean_discard state clean
  · exact clean

theorem fits_settle (sound : state.Sound place object) :
    state.Fits place object ({ object with
      channel := object.channel.publishDistributed .userLeft [("userId", .string userId)] }.closeIfEmpty transport) := by
  have same := object.channel.publish_same (.distributed .userLeft [("userId", .string userId)])
  have published := fits_same state sound same
  have closes := fits_close state transport (sound_fits state place sound published)
  exact ⟨closes.lobby, closes.destroyed, closes.name.trans published.name,
    fun active => published.active (closes.active active), closes.vacated, closes.members⟩

theorem clean_settle {leave : Nat} (clean : Clean state) :
    Clean { state with run := state.run.settle leave } := by
  simp only [EndpointRun.settle]
  split
  · exact clean
  rename_i transport place _
  refine clean_update state place (fun object => { object with
    channel := object.channel.publishDistributed .userLeft [("userId", .string transport.id)] }.closeIfEmpty transport)
    clean ?_ _ rfl rfl rfl rfl clean.gone
  intro object found
  exact fits_settle state (clean.channels place object found)

theorem clean_destroy (clean : Clean state) :
    Clean { state with run := state.run.destroy place } := by
  simp only [destroy]
  cases there : state.run.channels[place]? with
  | none => exact clean
  | some object =>
    dsimp only
    split
    · exact clean
    rename_i standing
    rw [Bool.or_eq_true, not_or] at standing
    have own := clean.channels place object there
    have listed := own.listed (Bool.eq_false_iff.mpr standing.2)
    refine ⟨?_, ?_, clean.gone⟩
    · intro other found held
      obtain ⟨before, was, same⟩ := get_modify held
      have sound := clean.channels other before was
      by_cases here : place = other
      · rw [here] at there
        rw [there] at was
        cases was
        rw [same, if_pos here]
        refine ⟨sound.named, fun active => absurd active standing.1, sound.vacated, ?_, sound.members⟩
        intro undone
        cases undone
      · rw [same, if_neg here]
        refine ⟨sound.named, sound.alive, sound.vacated, ?_, sound.members⟩
        intro undestroyed
        obtain ⟨known, entry⟩ := sound.listed undestroyed
        refine ⟨known, ?_⟩
        dsimp only
        by_cases lobby : before.lobby = object.lobby
        · rw [if_pos lobby, get_delete, if_neg]
          · exact entry
          · -- Two channels that stand under one name are one.
            intro name
            rw [lobby, name, listed.2] at entry
            cases entry
            exact here rfl
        · rw [if_neg lobby]
          exact entry
    · intro lobby key other found
      rw [update, length_modify]
      dsimp only at found
      by_cases same : lobby = object.lobby
      · rw [if_pos same, get_delete] at found
        split at found
        · cases found
        · exact clean.placed lobby key other found
      · rw [if_neg same] at found
        exact clean.placed lobby key other found

theorem ahead_is {client : Client} {place : Nat} (phase : state.clients userId = client) :
    state.Ahead userId place lobby ↔ client.Ahead place lobby := by
  rw [Ahead, phase]

theorem holder_listed (sound : state.Sound place object) (holds : object.holds userId = true) :
    object.lobby ∈ state.registrations ∧ (state.run.lobbies object.lobby).get? object.channel.name = some place := by
  have member := (sound.members userId holds).1
  have active : object.channel.active = true := by
    rw [← Bool.not_eq_false]
    intro closed
    have nobody := empty_iff.mp (sound.vacated closed) userId
    rw [nobody] at member
    cases member
  exact sound.listed (sound.alive active)

theorem clean_close (clean : Clean state) : Clean (state.close userId) := by
  rw [close]
  split
  · apply clean_client state userId _ clean
    · intro place object found holds _
      exact .inl (holder_listed state (clean.channels place object found) holds).1
    · intro same
      cases same
  · exact clean

theorem clean_list (clean : Clean state) : Clean (state.list userId) := by
  rw [list]
  split
  · rename_i lobby lobbies phase
    apply clean_client state userId _ clean
    · intro place object found holds ahead
      rcases (ahead_is state phase).mp ahead with here | none
      · rcases mem_cons.mp here with same | later
        · have entry := (holder_listed state (clean.channels place object found) holds).2
          rw [same] at entry
          have row := (find_entry_mem _ (state.run.lobbies lobby).distinct).mp entry
          exact .inr (mem_map.mpr ⟨_, row, rfl⟩)
        · exact .inl later
      · cases none
    · intro same
      cases same
  · exact clean

theorem clean_visit {moment : Moment} (clean : Clean state) : Clean (state.visit userId moment) := by
  rw [visit]
  split
  · rename_i lobbies place places phase
    cases there : state.run.channels[place]? with
    | none =>
      apply clean_client state userId _ clean
      · intro other object found _ ahead
        rcases (ahead_is state phase).mp ahead with lobby | listed
        · exact .inl lobby
        rcases mem_cons.mp listed with same | later
        · rw [same, there] at found
          cases found
        · exact .inr later
      · intro same
        cases same
    | some object =>
      dsimp only
      have sound := clean.channels place object there
      split
      · rename_i absent
        apply clean_client state userId _ clean
        · intro other found held holds ahead
          rcases (ahead_is state phase).mp ahead with lobby | listed
          · exact .inl lobby
          rcases mem_cons.mp listed with same | later
          · rw [same, there] at held
            cases held
            have member := (sound.members userId holds).1
            rw [Channel.hasUser, member] at absent
            cases absent
          · exact .inr later
        · intro same
          cases same
      · rw [object.channel.discard_raises moment sound.named]
        have updated : Clean { state with
            run := state.run.update place fun object =>
              { object with channel := (object.channel.discardUser moment userId).1 } } := by
          refine clean_update state place (fun object =>
            { object with channel := (object.channel.discardUser moment userId).1 }) clean ?_ _ rfl rfl rfl rfl clean.gone
          intro before found
          exact fits_discard state (clean.channels place before found)
        apply clean_client _ userId _ updated
        · intro other found held holds ahead
          rcases (ahead_is _ phase).mp ahead with lobby | listed
          · exact .inl lobby
          rcases mem_cons.mp listed with same | later
          · obtain ⟨_, _, changed⟩ := get_modify held
            rw [changed, if_pos same.symm] at holds
            exact absurd rfl (discard_holds.mp holds).1
          · exact .inr later
        · intro same
          cases same
  · exact clean

theorem clean_removed (clean : Clean state) : Clean (state.removed userId) := by
  rw [removed]
  split
  · rename_i place lobbies places transport phase _
    have updated : Clean { state with
        run := state.run.update place fun object =>
          { object with
            channel := object.channel.publishDistributed .userLeft [("userId", .string userId)] }.closeIfEmpty
              transport } := by
      refine clean_update state place (fun object => { object with
        channel := object.channel.publishDistributed .userLeft [("userId", .string userId)] }.closeIfEmpty transport)
        clean ?_ _ rfl rfl rfl rfl clean.gone
      intro object found
      exact fits_settle state (clean.channels place object found)
    apply clean_client _ userId _ updated
    · intro other object found _ ahead
      exact (ahead_is _ phase).mp ahead
    · intro same
      cases same
  · exact clean

theorem clean_disconnect (clean : Clean state) : Clean (state.disconnect userId) := by
  rw [disconnect]
  split
  · rename_i phase
    have dropped : Clean { state with connections := state.connections.delete userId } := by
      refine clean_same clean rfl rfl rfl rfl ?_
      intro other closed
      have before := clean.gone other closed
      rw [Bool.eq_false_iff, Ne, has_delete]
      intro both
      rw [before] at both
      cases both.2
    apply clean_client _ userId .closed dropped
    · intro place object _ _ ahead
      rcases (ahead_is _ phase).mp ahead with none | none
      · cases none
      · cases none
    intro _
    rw [Bool.eq_false_iff, Ne, has_delete]
    exact fun both => both.1 rfl
  · exact clean

theorem clean_step (label : GhostStep) (clean : Clean state) (timely : state.Timely label) :
    Clean (state.step label) := by
  cases label with
  | register => exact clean_register state clean
  | join => exact clean_join state clean
  | accept => exact clean_accept state clean timely
  | track => exact clean_track state clean timely
  | decline => exact clean_decline state clean
  | check => exact clean_check state clean
  | finish => exact clean_finish state clean
  | leave => exact clean_leave state clean
  | settle => exact clean_settle state clean
  | destroy => exact clean_destroy state clean
  | close => exact clean_close state clean
  | list => exact clean_list state clean
  | visit => exact clean_visit state clean
  | removed => exact clean_removed state clean
  | disconnect => exact clean_disconnect state clean

theorem timely_no_ghosts (endpointPath : String) (nodeId : NodeId) (pubsub : Bool) (registrations : List Nat)
    (labels : List GhostStep) (follows : Follows step Timely (new endpointPath nodeId pubsub registrations) labels) :
    Always step NoGhosts (new endpointPath nodeId pubsub registrations) labels := by
  apply always_mono step Clean NoGhosts clean_no_ghosts
  exact always_of_follows step Timely Clean clean_step _ clean_new follows

theorem now_drawn : "event-1" ≠ "" := by decide

def now : Moment := ⟨"event-1", true, now_drawn⟩

def client : Transport := ⟨"u", 0⟩

def roomJoin : JoinRequest := ⟨"/room", "1", by decide, by decide⟩

def joined : List GhostStep :=
  [.register client, .join 0 roomJoin client, .accept 0 .empty, .track 0 .empty now, .finish 0, .close "u", .list "u",
    .visit "u" now, .removed "u", .disconnect "u"]

theorem joined_no_ghosts : Always step NoGhosts (new "/ws" "a" false [0]) joined := by
  apply timely_no_ghosts "/ws" "a" false [0] joined
  refine ⟨trivial, trivial, ?_, ?_, trivial, trivial, trivial, trivial, trivial, trivial, trivial⟩
  · intro transport place object pending found _ _
    cases pending
    exact (trivial : Client.connected.Ahead 0 _)
  intro transport place object accepted found _
  cases accepted
  cases found
  rfl

def late : List GhostStep :=
  [.register client, .join 0 roomJoin client, .close "u", .list "u", .visit "u" now, .disconnect "u", .accept 0 .empty,
    .finish 0]

theorem late_ghost : ¬ Always step NoGhosts (new "/ws" "a" false [0]) late := by
  intro always
  have last := always_run step _ always
  have closed : (Library.run step (new "/ws" "a" false [0]) late).clients "u" = .closed := by decide +kernel
  have joins : ∀ task ∈ (Library.run step (new "/ws" "a" false [0]) late).run.joins,
      task.transport.id = "u" → task.phase = .finished := by decide +kernel
  have leaves : ∀ task ∈ (Library.run step (new "/ws" "a" false [0]) late).run.leaves, task.transport.id ≠ "u" := by
    decide +kernel
  have entry : ((Library.run step (new "/ws" "a" false [0]) late).run.lobbies 0).get? "/room" = some 0 := by decide +kernel
  have ghost : ((Library.run step (new "/ws" "a" false [0]) late).run.channels[0]?).any
      (fun object : LobbyChannel => object.holds "u") = true := by decide +kernel
  cases found : (Library.run step (new "/ws" "a" false [0]) late).run.channels[0]? with
  | none =>
    rw [found] at ghost
    cases ghost
  | some object =>
    rw [found, Option.any_some, (last "u" ⟨closed, joins, leaves⟩).2 0 "/room" 0 object entry found] at ghost
    cases ghost

end GhostRun

end PondSocket.Python
