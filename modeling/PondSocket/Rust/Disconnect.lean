import PondSocket.Library.Places
import PondSocket.Rust.LobbyRun

namespace PondSocket.Rust

open Library List OrderedMap Option
open Js (UserId NodeId)

-- What is settled outside while a user leaves one channel: the uuids and the room
-- of the dispatch queue, whether publishing the presence event and the departure
-- goes through, and whether unsubscribing the channel does, should it be closed.
structure Attempt where
  moment : Moment
  presence : Bool
  departure : Bool
  unsubscribed : Bool
deriving DecidableEq

inductive Removal where
  | absent
  | failed
  | removed
deriving DecidableEq

namespace Channel

-- publish_event_to_pubsub, with what PubSub.publish results in.
def tryPublish (channel : Channel) (through : Bool) (event : Event) (subtype : String) : Channel × Bool :=
  if channel.distributed = true ∧ through = false then (channel, false)
  else (channel.publishEventToPubsub event subtype, true)

def tryPresenceChange (channel : Channel) (attempt : Attempt) (userId : UserId) (eventType : PresenceEventType)
    (changed : Table) : Channel × Bool :=
  let event := channel.presenceChange attempt.moment.uuid userId eventType changed
  (channel.dispatchLocalBestEffort attempt.moment.room event channel.localPresenceSnapshot.2).tryPublish
    attempt.presence event eventType.subtype

def forget (channel : Channel) (userId : UserId) : Channel :=
  { channel with
    connections := channel.connections.delete userId
    assigns := channel.assigns.delete userId
    presence := channel.presence.delete userId }

def departure (channel : Channel) (userId : UserId) (reason : String) : Departure :=
  ⟨userId, (channel.assigns.get? userId).getD .empty, channel.presence.get? userId, reason⟩

def announceLeave (channel : Channel) (attempt : Attempt) (departure : Departure) : Channel × Bool :=
  match departure.presence with
  | none => (channel, true)
  | some old => channel.tryPresenceChange attempt departure.userId .leave old

-- publish_user_left, whatever comes of it, and the leave handler.
def completeLeave (channel : Channel) (attempt : Attempt) (departure : Departure) : Channel :=
  let left := (channel.tryPublish attempt.departure (channel.userLeft attempt.moment.uuid departure.userId)
    "user:left").1
  { left with departures := left.departures ++ [departure] }

-- remove_user up to the call of remove_channel_if_idle at its end: only the
-- publishing of the presence event ends it early.
def tryRemoveUser (channel : Channel) (attempt : Attempt) (userId : UserId) (reason : String) : Channel × Removal :=
  if channel.connections.has userId = false then (channel, .absent)
  else
    let departure := channel.departure userId reason
    let told := (channel.forget userId).announceLeave attempt departure
    if told.2 then (told.1.completeLeave attempt departure, .removed) else (told.1, .failed)

def close (channel : Channel) (unsubscribed : Bool) : Channel :=
  if unsubscribed then
    { channel with
      active := false
      connections := .empty
      assigns := .empty
      presence := .empty
      nodeLastSeen := .empty
      nodeUsers := .empty }
  else { channel with active := false }

end Channel

def LobbyChannel.isIdle (object : LobbyChannel) : Bool :=
  decide (object.channel.userCount = 0) && decide (object.inFlight = 0) &&
    object.channel.nodeUsers.values.all OrderedMap.isEmpty

structure HeldLobby where
  channels : OrderedMap String Nat
  objects : List LobbyChannel
  named : ∀ name id, channels.get? name = some id → ∃ object, objects[id]? = some object ∧ object.channel.name = name

variable {unsubscribed : Bool}

namespace HeldLobby

def touch (lobby : HeldLobby) (id : Nat) (change : Channel → Channel)
    (keeps : ∀ channel, (change channel).name = channel.name) : HeldLobby where
  channels := lobby.channels
  objects := lobby.objects.modify id fun object => { object with channel := change object.channel }
  named name other held := by
    obtain ⟨object, found, named⟩ := lobby.named name other held
    by_cases own : id = other
    · subst own
      exact ⟨_, by rw [List.getElem?_modify_eq, found]; rfl, by rw [keeps, named]⟩
    · exact ⟨object, by rw [List.getElem?_modify_ne _ _ own, found], named⟩

def drop (lobby : HeldLobby) (name : String) : HeldLobby where
  channels := lobby.channels.delete name
  objects := lobby.objects
  named other id held := by
    rw [OrderedMap.get_delete] at held
    split at held
    · cases held
    · exact lobby.named other id held

def hasUser (lobby : HeldLobby) (id : Nat) (userId : UserId) : Bool :=
  lobby.objects[id]?.any fun object => object.channel.hasUser userId

theorem close_name (channel : Channel) : (channel.close unsubscribed).name = channel.name := by
  cases unsubscribed <;> rfl

def removeChannelIfIdle (lobby : HeldLobby) (unsubscribed : Bool) (name : String) : HeldLobby :=
  match lobby.channels.get? name with
  | none => lobby
  | some id =>
    if lobby.objects[id]?.any LobbyChannel.isIdle then
      (lobby.drop name).touch id (fun channel => channel.close unsubscribed) close_name
    else lobby

end HeldLobby

structure Channel.Kept (before after : Channel) : Prop where
  name : after.name = before.name
  distributed : after.distributed = before.distributed
  connections : after.connections = before.connections
  assigns : after.assigns = before.assigns
  presence : after.presence = before.presence
  departures : after.departures = before.departures

variable {userId : UserId}

variable {reason : String}

namespace Channel

variable (channel : Channel) (attempt : Attempt)

theorem publish_keeps {event : Event} {subtype : String} :
    channel.Kept (channel.publishEventToPubsub event subtype) := by
  by_cases distributed : channel.distributed = true
  · rw [publishEventToPubsub, if_pos distributed]
    exact ⟨rfl, rfl, rfl, rfl, rfl, rfl⟩
  · rw [publishEventToPubsub, if_neg distributed]
    exact ⟨rfl, rfl, rfl, rfl, rfl, rfl⟩

theorem try_publish_keeps (through : Bool) (event : Event) (subtype : String) :
    channel.Kept (channel.tryPublish through event subtype).1 := by
  by_cases fails : channel.distributed = true ∧ through = false
  · rw [tryPublish, if_pos fails]
    exact ⟨rfl, rfl, rfl, rfl, rfl, rfl⟩
  · rw [tryPublish, if_neg fails]
    exact publish_keeps channel

theorem try_publish_through (through : Bool) (event : Event) (subtype : String) :
    (channel.tryPublish through event subtype).2 = true ↔ (channel.distributed = true → through = true) := by
  by_cases fails : channel.distributed = true ∧ through = false
  · rw [tryPublish, if_pos fails]
    simp [fails.1, fails.2]
  · rw [tryPublish, if_neg fails]
    simpa using fails

theorem dispatch_keeps {room : Bool} {event : Event} {recipients : List UserId} :
    channel.Kept (channel.dispatchLocalBestEffort room event recipients) := by
  by_cases nobody : recipients.isEmpty = true
  · rw [dispatchLocalBestEffort, if_pos nobody]
    exact ⟨rfl, rfl, rfl, rfl, rfl, rfl⟩
  · rw [dispatchLocalBestEffort, if_neg nobody]
    cases room <;> exact ⟨rfl, rfl, rfl, rfl, rfl, rfl⟩

theorem Kept.trans {first second third : Channel} (before : first.Kept second) (after : second.Kept third) :
    first.Kept third :=
  ⟨after.name.trans before.name, after.distributed.trans before.distributed, after.connections.trans before.connections,
    after.assigns.trans before.assigns, after.presence.trans before.presence, after.departures.trans before.departures⟩

-- The presence event of the user, if it had presence here, is published.
def Announces (channel : Channel) (attempt : Attempt) (userId : UserId) : Prop :=
  channel.presence.has userId = true → channel.distributed = true → attempt.presence = true

theorem try_remove_absent (absent : channel.hasUser userId = false) :
    channel.tryRemoveUser attempt userId reason = (channel, .absent) :=
  if_pos absent

theorem announce_keeps (departure : Departure) :
    channel.Kept (channel.announceLeave attempt departure).1 := by
  cases had : departure.presence with
  | none =>
    simp only [announceLeave, had]
    exact ⟨rfl, rfl, rfl, rfl, rfl, rfl⟩
  | some =>
    simp only [announceLeave, had]
    exact (dispatch_keeps channel).trans (try_publish_keeps _ _ _ _)

theorem announce_through (departure : Departure) :
    (channel.announceLeave attempt departure).2 = true ↔
      (departure.presence.isSome = true → channel.distributed = true → attempt.presence = true) := by
  cases had : departure.presence with
  | none => simp [announceLeave, had]
  | some =>
    simp only [announceLeave, had, tryPresenceChange]
    rw [try_publish_through, (dispatch_keeps channel).distributed]
    simp

theorem complete_leave (departure : Departure) :
    (channel.completeLeave attempt departure).name = channel.name ∧
      (channel.completeLeave attempt departure).connections = channel.connections ∧
        (channel.completeLeave attempt departure).assigns = channel.assigns ∧
          (channel.completeLeave attempt departure).presence = channel.presence ∧
            (channel.completeLeave attempt departure).departures = channel.departures ++ [departure] := by
  have kept := try_publish_keeps channel attempt.departure (channel.userLeft attempt.moment.uuid departure.userId)
    "user:left"
  exact ⟨kept.name, kept.connections, kept.assigns, kept.presence, congrArg (· ++ [departure]) kept.departures⟩

variable {channel}

theorem try_remove_forgets (reason : String) (present : channel.hasUser userId = true) :
    (channel.tryRemoveUser attempt userId reason).1.name = channel.name ∧
      (channel.tryRemoveUser attempt userId reason).1.connections = channel.connections.delete userId ∧
        (channel.tryRemoveUser attempt userId reason).1.assigns = channel.assigns.delete userId ∧
          (channel.tryRemoveUser attempt userId reason).1.presence = channel.presence.delete userId := by
  have here : ¬ channel.connections.has userId = false := by
    rw [hasUser] at present
    rw [present]
    exact Bool.noConfusion
  have kept := announce_keeps (channel.forget userId) attempt (channel.departure userId reason)
  rw [tryRemoveUser, if_neg here]
  dsimp only
  split
  · obtain ⟨name, connections, assigns, presence, _⟩ :=
      complete_leave ((channel.forget userId).announceLeave attempt (channel.departure userId reason)).1 attempt
        (channel.departure userId reason)
    exact ⟨name.trans kept.name, connections.trans kept.connections, assigns.trans kept.assigns,
      presence.trans kept.presence⟩
  · exact ⟨kept.name, kept.connections, kept.assigns, kept.presence⟩

theorem try_remove_departs (reason : String) (present : channel.hasUser userId = true) :
    channel.Announces attempt userId ∧ (channel.tryRemoveUser attempt userId reason).2 = .removed ∧
        (channel.tryRemoveUser attempt userId reason).1.departures =
          channel.departures ++ [channel.departure userId reason] ∨
      ¬ channel.Announces attempt userId ∧ (channel.tryRemoveUser attempt userId reason).2 = .failed ∧
        (channel.tryRemoveUser attempt userId reason).1.departures = channel.departures := by
  have here : ¬ channel.connections.has userId = false := by
    rw [hasUser] at present
    rw [present]
    exact Bool.noConfusion
  have kept := announce_keeps (channel.forget userId) attempt (channel.departure userId reason)
  have through := announce_through (channel.forget userId) attempt (channel.departure userId reason)
  rw [tryRemoveUser, if_neg here]
  dsimp only
  split
  · rename_i went
    left
    refine ⟨through.mp went, rfl, ?_⟩
    rw [(complete_leave _ _ _).2.2.2.2, kept.departures]
    rfl
  rename_i went
  right
  exact ⟨fun announces => went (through.mpr announces), rfl, kept.departures⟩

theorem try_remove_through (moment : Moment) (unsubscribed : Bool) (userId : UserId) (reason : String) :
    (channel.tryRemoveUser ⟨moment, true, true, unsubscribed⟩ userId reason).1 =
      channel.removeUser moment userId reason := by
  by_cases absent : channel.connections.has userId = false
  · rw [tryRemoveUser, if_pos absent, removeUser, if_pos absent]
  rw [tryRemoveUser, if_neg absent, removeUser, if_neg absent]
  have through : ∀ (other : Channel) event subtype,
      other.tryPublish true event subtype = (other.publishEventToPubsub event subtype, true) := by
    intro other event subtype
    rw [tryPublish, if_neg (fun fails => Bool.noConfusion fails.2)]
  cases had : channel.presence.get? userId with
  | none => simp [departure, had, announceLeave, completeLeave, through, forget]
  | some =>
    simp [departure, had, announceLeave, tryPresenceChange, completeLeave, through, forget, publishPresenceChange]

end Channel

namespace HeldLobby

theorem try_remove_name {attempt : Attempt} (channel : Channel) :
    (channel.tryRemoveUser attempt userId reason).1.name = channel.name := by
  cases present : channel.hasUser userId with
  | false => rw [Channel.try_remove_absent channel attempt present]
  | true => exact (Channel.try_remove_forgets attempt reason present).1

-- remove_user on a channel that has the user; the result says whether it is Ok.
def removeUser (lobby : HeldLobby) (attempt : Attempt) (id : Nat) (userId : UserId) (reason : String) :
    HeldLobby × Bool :=
  match lobby.objects[id]? with
  | none => (lobby, true)
  | some object =>
    let left := lobby.touch id (fun channel => (channel.tryRemoveUser attempt userId reason).1)
      try_remove_name
    match (object.channel.tryRemoveUser attempt userId reason).2 with
    | .absent => (lobby, true)
    | .failed => (left, false)
    | .removed => (left.removeChannelIfIdle attempt.unsubscribed object.channel.name, true)

def unregisterFrom (lobby : HeldLobby) (attempts : Nat → Attempt) (userId : UserId) : List Nat → HeldLobby × Bool
  | [] => (lobby, true)
  | id :: rest =>
    if lobby.hasUser id userId then
      let left := lobby.removeUser (attempts id) id userId "connection_closed"
      if left.2 then left.1.unregisterFrom attempts userId rest else left
    else lobby.unregisterFrom attempts userId rest

end HeldLobby

-- The connections of an endpoint and the lobbies of its registrations, in order.
structure ServedEndpoint where
  connections : OrderedMap UserId Transport
  lobbies : List HeldLobby

namespace ServedEndpoint

-- The loop of unregister_transport over the lobbies; attempts gives what is settled
-- outside for each lobby's place and each channel.
def unregisterLobbies (attempts : Nat → Nat → Attempt) (userId : UserId) : Nat → List HeldLobby → List HeldLobby × Bool
  | _, [] => ([], true)
  | place, lobby :: rest =>
    let left := lobby.unregisterFrom (attempts place) userId lobby.channels.values
    if left.2 then
      let later := unregisterLobbies attempts userId (place + 1) rest
      (left.1 :: later.1, later.2)
    else (left.1 :: rest, false)

def unregisterTransport (endpoint : ServedEndpoint) (attempts : Nat → Nat → Attempt) (userId : UserId) :
    ServedEndpoint × Bool :=
  let left := unregisterLobbies attempts userId 0 endpoint.lobbies
  if left.2 then ({ connections := endpoint.connections.delete userId, lobbies := left.1 }, true)
  else ({ endpoint with lobbies := left.1 }, false)

end ServedEndpoint

variable {after : HeldLobby} {id : Nat} {object : LobbyChannel}

namespace HeldLobby

variable (lobby : HeldLobby)

structure Left (after : HeldLobby) (userId : UserId) (id : Nat) (object : LobbyChannel) : Prop where
  cleared : ∀ later, after.objects[id]? = some later → later.channel.connections.has userId = false ∧
    later.channel.assigns.has userId = false ∧ later.channel.presence.has userId = false
  departed : ∃ later, after.objects[id]? = some later ∧ later.channel.departures = object.channel.departures ++
    if object.channel.hasUser userId then [object.channel.departure userId "connection_closed"] else []
  removed : object.channel.hasUser userId = true → ∀ later, after.objects[id]? = some later → later.isIdle = true →
    ∀ name, after.channels.get? name ≠ some id

structure Beside (before after : HeldLobby) (ids : List Nat) : Prop where
  objects : ∀ id, id ∉ ids → after.objects[id]? = before.objects[id]?
  listed : ∀ name id, id ∉ ids → (after.channels.get? name = some id ↔ before.channels.get? name = some id)
  fewer : ∀ name id, after.channels.get? name = some id → before.channels.get? name = some id

variable {ids : List Nat}

theorem Beside.refl : Beside lobby lobby ids :=
  ⟨fun _ _ => rfl, fun _ _ _ => Iff.rfl, fun _ _ held => held⟩

theorem Beside.trans {first second third : HeldLobby} (before : Beside first second ids)
    (after : Beside second third ids) : Beside first third ids where
  objects id outside := (after.objects id outside).trans (before.objects id outside)
  listed name id outside := (after.listed name id outside).trans (before.listed name id outside)
  fewer name id held := before.fewer name id (after.fewer name id held)

variable {before : HeldLobby}

theorem Beside.wider {more : List Nat} (beside : Beside before after ids) (within : ∀ id, id ∈ ids → id ∈ more) :
    Beside before after more where
  objects id outside := beside.objects id fun member => outside (within id member)
  listed name id outside := beside.listed name id fun member => outside (within id member)
  fewer := beside.fewer

theorem objects_touch (id other : Nat) (change : Channel → Channel)
    (keeps : ∀ channel, (change channel).name = channel.name) :
    (lobby.touch id change keeps).objects[other]? =
      if id = other then lobby.objects[other]?.map fun object => { object with channel := change object.channel }
      else lobby.objects[other]? := by
  by_cases own : id = other
  · subst own
    rw [if_pos rfl]
    exact getElem?_modify_eq _ _ _
  · rw [if_neg own]
    exact getElem?_modify_ne _ _ own

theorem beside_touch {change : Channel → Channel} (keeps : ∀ channel, (change channel).name = channel.name) :
    Beside lobby (lobby.touch id change keeps) [id] where
  objects other outside := by
    rw [objects_touch, if_neg]
    intro own
    exact outside (own ▸ mem_singleton_self id)
  listed _ _ _ := Iff.rfl
  fewer _ _ held := held

variable {name : String}

theorem name_of_listed (listed : lobby.channels.get? name = some id) (found : lobby.objects[id]? = some object) :
    object.channel.name = name := by
  obtain ⟨_, there, named⟩ := lobby.named name id listed
  rw [found] at there
  cases there
  exact named

theorem beside_drop (listed : lobby.channels.get? name = some id) :
    Beside lobby (lobby.drop name) [id] where
  objects _ _ := rfl
  listed other held outside := by
    change (lobby.channels.delete name).get? other = some held ↔ _
    by_cases same : other = name
    · subst same
      refine iff_of_false (by simp) ?_
      intro there
      rw [listed] at there
      exact outside (mem_singleton.mpr (some.inj there).symm)
    · rw [get_delete_other same]
  fewer other held there := by
    change (lobby.channels.delete name).get? other = some held at there
    rw [get_delete] at there
    split at there
    · cases there
    · exact there

theorem beside_idle (unsubscribed : Bool) (name : String) (id : Nat) (listed : lobby.channels.get? name = some id) :
    Beside lobby (lobby.removeChannelIfIdle unsubscribed name) [id] := by
  simp only [removeChannelIfIdle, listed]
  split
  · exact (beside_drop lobby listed).trans (beside_touch (lobby.drop name) _)
  · exact Beside.refl lobby

theorem idle_removed (unsubscribed : Bool) (name : String) (id : Nat) (object : LobbyChannel)
    (listed : lobby.channels.get? name = some id) (found : lobby.objects[id]? = some object) :
    ∃ later, (lobby.removeChannelIfIdle unsubscribed name).objects[id]? = some later ∧
      (later.channel = object.channel ∨ later.channel = object.channel.close unsubscribed) ∧
        (later.isIdle = true → ∀ other, (lobby.removeChannelIfIdle unsubscribed name).channels.get? other ≠ some id) := by
  by_cases idle : object.isIdle = true
  · have dropped : lobby.removeChannelIfIdle unsubscribed name =
        (lobby.drop name).touch id (fun channel => channel.close unsubscribed) close_name := by
      simp only [removeChannelIfIdle, listed, found, any_some, idle, if_true]
    rw [dropped]
    refine ⟨{ object with channel := object.channel.close unsubscribed }, ?_, .inr rfl, ?_⟩
    · rw [objects_touch, if_pos rfl]
      change lobby.objects[id]?.map _ = _
      rw [found]
      rfl
    intro _ other held
    change (lobby.channels.delete name).get? other = some id at held
    rw [get_delete] at held
    split at held
    · cases held
    rename_i different
    exact different ((lobby.name_of_listed held found).symm.trans (lobby.name_of_listed listed found))
  · have kept : lobby.removeChannelIfIdle unsubscribed name = lobby := by
      simp only [removeChannelIfIdle, listed, found, any_some, idle]
      rfl
    rw [kept]
    exact ⟨object, found, .inl rfl, fun idles => absurd idles idle⟩

theorem close_cleared {channel : Channel}
    (cleared : channel.connections.has userId = false ∧ channel.assigns.has userId = false ∧
      channel.presence.has userId = false) :
    (channel.close unsubscribed).connections.has userId = false ∧ (channel.close unsubscribed).assigns.has userId = false ∧
      (channel.close unsubscribed).presence.has userId = false := by
  cases unsubscribed with
  | false => exact cleared
  | true => exact ⟨rfl, rfl, rfl⟩

theorem close_departures (channel : Channel) (unsubscribed : Bool) :
    (channel.close unsubscribed).departures = channel.departures := by
  cases unsubscribed <;> rfl

theorem remove_user_spec {attempt : Attempt} (listed : lobby.channels.get? name = some id)
    (found : lobby.objects[id]? = some object) (present : object.channel.hasUser userId = true) :
    Beside lobby (lobby.removeUser attempt id userId "connection_closed").1 [id] ∧
      (object.channel.Announces attempt userId ∧ (lobby.removeUser attempt id userId "connection_closed").2 = true ∧
          Left (lobby.removeUser attempt id userId "connection_closed").1 userId id object ∨
        ¬ object.channel.Announces attempt userId ∧ (lobby.removeUser attempt id userId "connection_closed").2 = false ∧
            ∃ later, (lobby.removeUser attempt id userId "connection_closed").1.objects[id]? = some later ∧
              later.channel.departures = object.channel.departures) := by
  let left := lobby.touch id (fun channel => (channel.tryRemoveUser attempt userId "connection_closed").1)
    try_remove_name
  have touched : Beside lobby left [id] := beside_touch _ _
  have there : left.objects[id]? =
      some { object with channel := (object.channel.tryRemoveUser attempt userId "connection_closed").1 } := by
    rw [objects_touch, if_pos rfl, found]
    rfl
  rcases Channel.try_remove_departs attempt "connection_closed" present with
    ⟨announces, removed, departures⟩ | ⟨silent, failed, departures⟩
  · have named : object.channel.name = name := lobby.name_of_listed listed found
    have done : lobby.removeUser attempt id userId "connection_closed" =
        (left.removeChannelIfIdle attempt.unsubscribed name, true) := by
      simp only [removeUser, found, removed, named]
      rfl
    rw [done]
    refine ⟨touched.trans (beside_idle left attempt.unsubscribed name id listed), .inl ⟨announces, rfl, ?_⟩⟩
    obtain ⟨later, holds, same, idle⟩ := idle_removed left attempt.unsubscribed name id _ listed there
    obtain ⟨_, connections, assigns, presence⟩ :=
      Channel.try_remove_forgets attempt "connection_closed" present
    have cleared : (object.channel.tryRemoveUser attempt userId "connection_closed").1.connections.has userId = false ∧
        (object.channel.tryRemoveUser attempt userId "connection_closed").1.assigns.has userId = false ∧
          (object.channel.tryRemoveUser attempt userId "connection_closed").1.presence.has userId = false := by
      rw [connections, assigns, presence]
      simp [has]
    refine ⟨?_, ⟨later, holds, ?_⟩, ?_⟩
    · intro other found
      rw [holds] at found
      cases found
      rcases same with same | same
      · rw [same]
        exact cleared
      · rw [same]
        exact close_cleared cleared
    · rw [present, if_pos rfl]
      rcases same with same | same
      · rw [same]
        exact departures
      · rw [same, close_departures]
        exact departures
    · intro _ other found idles
      rw [holds] at found
      cases found
      exact idle idles
  · have done : lobby.removeUser attempt id userId "connection_closed" = (left, false) := by
      simp only [removeUser, found, failed]
      rfl
    rw [done]
    exact ⟨touched, .inr ⟨silent, rfl, _, there, departures⟩⟩

-- Where the user is connected, its presence event is published.
def Announced (lobby : HeldLobby) (attempts : Nat → Attempt) (userId : UserId) (id : Nat) : Prop :=
  ∀ object, lobby.objects[id]? = some object → object.channel.hasUser userId = true →
    object.channel.Announces (attempts id) userId

def Served (before after : HeldLobby) (userId : UserId) (id : Nat) : Prop :=
  ∀ object, before.objects[id]? = some object →
    (object.channel.hasUser userId = true → Left after userId id object) ∧
      (object.channel.hasUser userId = false → after.objects[id]? = some object)

-- The leave handler was not called for a user that was connected.
def Missed (before after : HeldLobby) (userId : UserId) (id : Nat) : Prop :=
  ∃ object later, before.objects[id]? = some object ∧ object.channel.hasUser userId = true ∧
    after.objects[id]? = some later ∧ later.channel.departures = object.channel.departures

theorem Left.beside (left : Left before userId id object) (beside : Beside before after ids) (outside : id ∉ ids) :
    Left after userId id object where
  cleared later found := left.cleared later (beside.objects id outside ▸ found)
  departed := by
    rw [beside.objects id outside]
    exact left.departed
  removed present later found idle name held :=
    left.removed present later (beside.objects id outside ▸ found) idle name (beside.fewer name id held)

variable {rest : List Nat}

theorem remaining (fresh : id ∉ rest) (beside : Beside before after [id])
    (listed : ∀ other ∈ id :: rest, ∃ name, before.channels.get? name = some other) (other : Nat)
    (member : other ∈ rest) : ∃ name, after.channels.get? name = some other := by
  obtain ⟨name, held⟩ := listed other (mem_cons_of_mem id member)
  have apart : other ∉ [id] := by
    intro same
    exact fresh (mem_singleton.mp same ▸ member)
  exact ⟨name, (beside.listed name other apart).mpr held⟩

variable {attempts : Nat → Attempt}

theorem served_cons {middle : HeldLobby} (fresh : id ∉ rest) (found : before.objects[id]? = some object)
    (own : Beside before middle [id])
    (announces : object.channel.hasUser userId = true → object.channel.Announces (attempts id) userId)
    (left : object.channel.hasUser userId = true → Left middle userId id object)
    (kept : object.channel.hasUser userId = false → middle.objects[id]? = some object) {ok : Bool}
    (next : Beside middle after rest ∧ (ok = true ∧ (∀ other ∈ rest, middle.Announced attempts userId other) ∧
          (∀ other ∈ rest, Served middle after userId other) ∨
        ok = false ∧ (¬ ∀ other ∈ rest, middle.Announced attempts userId other) ∧
          ∃ other ∈ rest, Missed middle after userId other)) :
    Beside before after (id :: rest) ∧ (ok = true ∧ (∀ other ∈ id :: rest, before.Announced attempts userId other) ∧
          (∀ other ∈ id :: rest, Served before after userId other) ∨
        ok = false ∧ (¬ ∀ other ∈ id :: rest, before.Announced attempts userId other) ∧
          ∃ other ∈ id :: rest, Missed before after userId other) := by
  obtain ⟨beside, outcome⟩ := next
  have same : ∀ other ∈ rest, middle.objects[other]? = before.objects[other]? := by
    intro other member
    apply own.objects other
    intro equal
    exact fresh (mem_singleton.mp equal ▸ member)
  have announced : ∀ other ∈ rest, before.Announced attempts userId other ↔ middle.Announced attempts userId other := by
    intro other member
    rw [Announced, Announced, same other member]
  constructor
  · apply (own.wider _).trans (beside.wider fun other => mem_cons_of_mem id)
    intro other member
    rw [mem_singleton.mp member]
    exact mem_cons_self
  rcases outcome with ⟨went, all, served⟩ | ⟨failed, some, other, member, missed⟩
  · refine .inl ⟨went, ?_, ?_⟩
    · intro other member
      rcases mem_cons.mp member with equal | later
      · subst equal
        intro there held here
        rw [found] at held
        cases held
        exact announces here
      · exact (announced other later).mpr (all other later)
    · intro other member
      rcases mem_cons.mp member with equal | later
      · subst equal
        intro there held
        rw [found] at held
        cases held
        refine ⟨fun here => (left here).beside beside fresh, fun absent => ?_⟩
        rw [beside.objects other fresh]
        exact kept absent
      · have done := served other later
        rw [Served, same other later] at done
        exact done
  · refine .inr ⟨failed, ?_, other, mem_cons_of_mem id member, ?_⟩
    · intro every
      exact some fun place later => (announced place later).mp (every place (mem_cons_of_mem id later))
    · rw [Missed, same other member] at missed
      exact missed

theorem unregister_from_spec (lobby : HeldLobby) (distinct : ids.Nodup)
    (listed : ∀ id ∈ ids, ∃ name, lobby.channels.get? name = some id) :
    Beside lobby (lobby.unregisterFrom attempts userId ids).1 ids ∧
      ((lobby.unregisterFrom attempts userId ids).2 = true ∧ (∀ id ∈ ids, lobby.Announced attempts userId id) ∧
          (∀ id ∈ ids, Served lobby (lobby.unregisterFrom attempts userId ids).1 userId id) ∨
        (lobby.unregisterFrom attempts userId ids).2 = false ∧ (¬ ∀ id ∈ ids, lobby.Announced attempts userId id) ∧
          ∃ id ∈ ids, Missed lobby (lobby.unregisterFrom attempts userId ids).1 userId id) := by
  induction ids generalizing lobby with
  | nil =>
    refine ⟨Beside.refl lobby, .inl ⟨rfl, ?_, ?_⟩⟩
    · intro id member
      exact absurd member not_mem_nil
    · intro id member
      exact absurd member not_mem_nil
  | cons id _ ih =>
    obtain ⟨fresh, distinct⟩ := nodup_cons.mp distinct
    obtain ⟨name, held⟩ := listed id mem_cons_self
    obtain ⟨object, found, _⟩ := lobby.named name id held
    have users : lobby.hasUser id userId = object.channel.hasUser userId := by rw [hasUser, found]; rfl
    by_cases present : object.channel.hasUser userId = true
    · obtain ⟨own, ⟨announces, went, left⟩ | ⟨silent, failed, later, there, departures⟩⟩ :=
        lobby.remove_user_spec held found present
      · have next := ih (lobby.removeUser (attempts id) id userId "connection_closed").1 distinct
          (remaining fresh own listed)
        rw [unregisterFrom, if_pos (users.trans present)]
        rw [if_pos went]
        exact served_cons fresh found own (fun _ => announces) (fun _ => left)
          (fun absent => absurd (present.symm.trans absent) Bool.noConfusion) next
      · rw [unregisterFrom, if_pos (users.trans present)]
        rw [if_neg (by rw [failed]; exact Bool.noConfusion)]
        refine ⟨own.wider fun other member => ?_, .inr ⟨failed, ?_, ?_⟩⟩
        · rw [mem_singleton.mp member]
          exact mem_cons_self
        · intro all
          exact silent (all id mem_cons_self object found present)
        · exact ⟨id, mem_cons_self, object, later, found, present, there, departures⟩
    · have next := ih lobby distinct fun other member => listed other (mem_cons_of_mem id member)
      rw [unregisterFrom, if_neg (by rw [users]; exact present)]
      exact served_cons fresh found (Beside.refl lobby)
        (fun here => absurd here present) (fun here => absurd here present) (fun _ => found) next

theorem mem_values : id ∈ lobby.channels.values ↔ ∃ name, lobby.channels.get? name = some id := by
  constructor
  · intro member
    obtain ⟨⟨name, _⟩, entry, same⟩ := mem_map.mp member
    subst same
    exact ⟨name, mem_entries.mp entry⟩
  · intro listed
    obtain ⟨name, held⟩ := listed
    exact mem_map.mpr ⟨(name, id), mem_entries.mpr held, rfl⟩

theorem values_distinct : lobby.channels.values.Nodup := by
  have names : lobby.channels.values.map (fun id => (lobby.objects[id]?.map fun object => object.channel.name).getD "") =
      lobby.channels.entries.map Prod.fst := by
    rw [OrderedMap.values, List.map_map]
    apply map_congr_left
    intro entry member
    obtain ⟨object, found, named⟩ := lobby.named entry.1 entry.2 (mem_entries.mp member)
    change (Option.map (fun object : LobbyChannel => object.channel.name) lobby.objects[entry.2]?).getD "" = entry.1
    rw [found]
    exact named
  apply List.Nodup.of_map
  rw [names]
  exact lobby.channels.distinct

end HeldLobby

namespace ServedEndpoint

theorem unregister_lobbies_spec {attempts : Nat → Nat → Attempt} (place : Nat) {lobbies : List HeldLobby} :
    (unregisterLobbies attempts userId place lobbies).2 = true ∧ (∀ index lobby, lobbies[index]? = some lobby →
          (∀ id ∈ lobby.channels.values, lobby.Announced (attempts (place + index)) userId id) ∧
            ∃ after, (unregisterLobbies attempts userId place lobbies).1[index]? = some after ∧
              ∀ id ∈ lobby.channels.values, HeldLobby.Served lobby after userId id) ∨
      (unregisterLobbies attempts userId place lobbies).2 = false ∧ ∃ index lobby after, lobbies[index]? = some lobby ∧
          (unregisterLobbies attempts userId place lobbies).1[index]? = some after ∧
            (¬ ∀ id ∈ lobby.channels.values, lobby.Announced (attempts (place + index)) userId id) ∧
              ∃ id ∈ lobby.channels.values, HeldLobby.Missed lobby after userId id := by
  induction lobbies generalizing place with
  | nil => exact .inl ⟨rfl, fun index lobby found => absurd found (by simp)⟩
  | cons lobby rest ih =>
    rcases (lobby.unregister_from_spec lobby.values_distinct
      fun id member => lobby.mem_values.mp member).2 with ⟨went, announced, served⟩ | ⟨failed, silent, missed⟩
    · rw [unregisterLobbies, if_pos went]
      rcases ih (place + 1) with ⟨through, all⟩ | ⟨stopped, index, other, after, found, later, silent, missed⟩
      · refine .inl ⟨through, ?_⟩
        intro index other found
        cases index with
        | zero =>
          cases found
          exact ⟨announced, _, rfl, served⟩
        | succ index =>
          have rest := all index other found
          rw [Nat.add_assoc, Nat.add_comm 1 index] at rest
          exact rest
      · refine .inr ⟨stopped, index + 1, other, after, found, later, ?_, missed⟩
        rw [Nat.add_assoc, Nat.add_comm 1 index] at silent
        exact silent
    · rw [unregisterLobbies, if_neg (by rw [failed]; exact Bool.noConfusion)]
      exact .inr ⟨rfl, 0, lobby, _, rfl, rfl, silent, missed⟩

-- The user is off the endpoint and has left all its channels.
def Cleared (before after : ServedEndpoint) (userId : UserId) : Prop :=
  after.connections.has userId = false ∧ ∀ (place : Nat) (lobby : HeldLobby), before.lobbies[place]? = some lobby →
    ∃ later : HeldLobby, after.lobbies[place]? = some later ∧ ∀ name id object, lobby.channels.get? name = some id →
      lobby.objects[id]? = some object → later.Left userId id object

-- The presence events of the user are published, and no channel it is not connected
-- to holds assigns or presence under its id.
def Published (endpoint : ServedEndpoint) (attempts : Nat → Nat → Attempt) (userId : UserId) : Prop :=
  ∀ (place : Nat) (lobby : HeldLobby) (name : String) (id : Nat) (object : LobbyChannel),
    endpoint.lobbies[place]? = some lobby → lobby.channels.get? name = some id → lobby.objects[id]? = some object →
      (object.channel.hasUser userId = true → object.channel.Announces (attempts place id) userId) ∧
        (object.channel.hasUser userId = false →
          object.channel.assigns.has userId = false ∧ object.channel.presence.has userId = false)

theorem left_of_served {lobby : HeldLobby} (found : lobby.objects[id]? = some object)
    (served : HeldLobby.Served lobby after userId id) (strange : object.channel.hasUser userId = false →
      object.channel.assigns.has userId = false ∧ object.channel.presence.has userId = false) :
    after.Left userId id object := by
  obtain ⟨left, kept⟩ := served object found
  cases present : object.channel.hasUser userId with
  | true => exact left present
  | false =>
    refine ⟨?_, ⟨object, kept present, ?_⟩, ?_⟩
    · intro later there
      rw [kept present] at there
      cases there
      exact ⟨present, strange present⟩
    · simp [present]
    · intro here
      rw [present] at here
      cases here

theorem unregister_complete_iff (endpoint : ServedEndpoint) (attempts : Nat → Nat → Attempt) (userId : UserId) :
    endpoint.Cleared (endpoint.unregisterTransport attempts userId).1 userId ↔ endpoint.Published attempts userId := by
  rcases unregister_lobbies_spec 0 with
    ⟨through, all⟩ | ⟨stopped, index, lobby, after, found, later, silent, missed⟩
  · rw [unregisterTransport, if_pos through]
    constructor
    · intro cleared place lobby name id object there listed known
      have announced := (all place lobby there).1 id (lobby.mem_values.mpr ⟨name, listed⟩)
      rw [Nat.zero_add] at announced
      refine ⟨announced object known, fun absent => ?_⟩
      obtain ⟨after, held, served⟩ := (all place lobby there).2
      obtain ⟨later, holds, left⟩ := cleared.2 place lobby there
      rw [held] at holds
      cases holds
      have kept := (served id (lobby.mem_values.mpr ⟨name, listed⟩) object known).2 absent
      exact ((left name id object listed known).cleared object kept).2
    · intro published
      constructor
      · simp [has]
      · intro place lobby there
        obtain ⟨after, held, served⟩ := (all place lobby there).2
        refine ⟨after, held, ?_⟩
        intro name id object listed known
        exact left_of_served known (served id (lobby.mem_values.mpr ⟨name, listed⟩))
          (published place lobby name id object there listed known).2
  · rw [unregisterTransport, if_neg (by rw [stopped]; exact Bool.noConfusion)]
    refine iff_of_false ?_ ?_
    · intro cleared
      obtain ⟨id, member, object, _, known, present, there, departures⟩ := missed
      obtain ⟨name, listed⟩ := lobby.mem_values.mp member
      obtain ⟨_, holds, left⟩ := cleared.2 index lobby found
      rw [later] at holds
      cases holds
      obtain ⟨departed, held, called⟩ := (left name id object listed known).departed
      rw [there] at held
      cases held
      rw [departures, present, if_pos rfl] at called
      have lengths := congrArg List.length called
      simp at lengths
    · intro published
      apply silent
      intro id member object known present
      obtain ⟨name, listed⟩ := lobby.mem_values.mp member
      rw [Nat.zero_add]
      exact (published index lobby name id object found listed known).1 present

def trackedChannel : Channel :=
  { Channel.new "/room/1" "/api" "node" true with
    active := true
    connections := OrderedMap.ofList [("ann", ⟨"ann", 0⟩)]
    assigns := OrderedMap.ofList [("ann", .empty)]
    presence := OrderedMap.ofList [("ann", .empty)] }

def trackedEndpoint : ServedEndpoint where
  connections := OrderedMap.ofList [("ann", ⟨"ann", 0⟩)]
  lobbies := [{
    channels := OrderedMap.ofList [("/room/1", 0)]
    objects := [⟨trackedChannel, 0⟩]
    named := by
      intro name id held
      have same : name = "/room/1" ∧ id = 0 := by
        rw [OrderedMap.get_of_list _ (by decide)] at held
        simp only [OrderedMap.findEntry] at held
        split at held
        · rename_i hit
          exact ⟨hit, (Option.some.inj held).symm⟩
        · cases held
      rw [same.1, same.2]
      exact ⟨⟨trackedChannel, 0⟩, rfl, rfl⟩ }]

-- The presence event cannot be published, and the user stays on the endpoint.
theorem unpublished_stays :
    ¬ trackedEndpoint.Cleared
      (trackedEndpoint.unregisterTransport (fun _ _ => ⟨⟨0, "uuid", true⟩, false, true, true⟩) "ann").1 "ann" := by
  intro cleared
  have stays : (trackedEndpoint.unregisterTransport (fun _ _ => ⟨⟨0, "uuid", true⟩, false, true, true⟩)
      "ann").1.connections.has "ann" = true := by decide +kernel
  rw [cleared.1] at stays
  cases stays

end ServedEndpoint

end PondSocket.Rust
