import PondSocket.Go.Membership

namespace PondSocket.Go

open Library List OrderedMap Option
open Js (UserId NodeId)

-- What createChannelUnsafe has come to: the channel is in the lobby's store, in
-- the endpoint's as well, or was closed because the endpoint had the name.
inductive Registration where
  | pending
  | stored
  | refused
deriving DecidableEq

-- arrived lists the users whose addUser returned nil since the last removal that
-- started a teardown; destroyed says that onDestroy has run.
structure Room where
  lobby : Nat
  name : String
  channel : Channel
  arrived : List Transport
  registration : Registration
  destroyed : Bool

-- The goroutine of removeUserLocalWithDestroy: before the mutex of Close, at the
-- connections that Close took out, or at onDestroy.
inductive TeardownStage where
  | closing
  | hangingUp (rest : List Transport)
  | destroying

structure Teardown where
  room : Nat
  stage : TeardownStage

-- One endpoint: every channel ever made, the stores of its lobbies and its own,
-- and the goroutines that run. A room is named by its place.
structure Rooms where
  rooms : List Room := []
  lobbies : OrderedMap (Nat × String) Nat := .empty
  endpoint : OrderedMap String Nat := .empty
  teardowns : List Teardown := []

inductive RoomLabel where
  | create (lobby : Nat) (name : String) (nodeId : NodeId) (distributed : Bool) (heartbeatTimeout : Nat)
  | register (room : Nat)
  | perform (room : Nat) (op : ChannelOp)
  | teardown (place : Nat)

def Room.key (room : Room) : Nat × String := (room.lobby, room.name)

namespace Rooms

variable (rooms : Rooms) (room : Nat)

variable (change : Room → Room) (place : Nat)

def update (rooms : Rooms) (room : Nat) (change : Room → Room) : Rooms :=
  { rooms with rooms := rooms.rooms.modify room change }

def locked (rooms : Rooms) (lobby : Nat) : Bool :=
  rooms.rooms.any fun room => decide (room.lobby = lobby ∧ room.registration = .pending)

def create (rooms : Rooms) (lobby : Nat) (name : String) (nodeId : NodeId) (distributed : Bool)
    (heartbeatTimeout : Nat) : Rooms :=
  if rooms.locked lobby ∨ rooms.lobbies.has (lobby, name) then rooms
  else
    let channel := newChannel name nodeId distributed true heartbeatTimeout
    { rooms with
      rooms := rooms.rooms ++ [⟨lobby, name, channel, [], .pending, false⟩]
      lobbies := rooms.lobbies.set (lobby, name) rooms.rooms.length }

def register (rooms : Rooms) (room : Nat) : Rooms :=
  match rooms.rooms[room]? with
  | none => rooms
  | some entry =>
    if entry.registration ≠ .pending then rooms
    else if rooms.endpoint.has entry.name then
      rooms.update room fun entry => { entry with channel := entry.channel.closeLocked, registration := .refused }
    else
      { rooms.update room fun entry => { entry with registration := .stored } with
        endpoint := rooms.endpoint.set entry.name room }

def arrivals (room : Room) (op : ChannelOp) : List Transport :=
  if room.channel.teardowns < (room.channel.act op).teardowns then []
  else
    match op with
    | .addUser user => if (room.channel.addUser user).2.isNone then room.arrived ++ [user] else room.arrived
    | _ => room.arrived

def perform (rooms : Rooms) (room : Nat) (op : ChannelOp) : Rooms :=
  match rooms.rooms[room]? with
  | none => rooms
  | some entry =>
    let started := (entry.channel.act op).teardowns - entry.channel.teardowns
    { rooms.update room fun entry => { entry with channel := entry.channel.act op, arrived := arrivals entry op } with
      teardowns := rooms.teardowns ++ List.replicate started ⟨room, .closing⟩ }

def advance (rooms : Rooms) (place : Nat) (teardown : Teardown) (stage : TeardownStage) : Rooms :=
  { rooms with teardowns := rooms.teardowns.set place { teardown with stage := stage } }

def hangUp (rooms : Rooms) (connection : Transport) : Rooms :=
  { rooms with
    rooms := rooms.rooms.map fun room =>
      { room with channel := room.channel.act (.connectionClosed connection.serial) } }

-- onChannelDestroyed, whose Delete calls go by the name alone.
def onDestroy (rooms : Rooms) (room : Nat) (entry : Room) : Rooms :=
  { rooms.update room fun entry => { entry with destroyed := true } with
    lobbies := rooms.lobbies.delete entry.key
    endpoint := rooms.endpoint.delete entry.name }

-- One step of a goroutine: Close under the mutex, one conn.Close, or the whole of
-- onDestroy.
def turn (rooms : Rooms) (place : Nat) (item : Teardown) (entry : Room) : TeardownStage → Rooms
  | .closing =>
    let connections := if entry.channel.done then [] else entry.channel.connections.store.values
    (rooms.update item.room fun entry => { entry with channel := entry.channel.closeLocked }).advance place item
      (.hangingUp connections)
  | .hangingUp [] => rooms.advance place item .destroying
  | .hangingUp (connection :: rest) => (rooms.hangUp connection).advance place item (.hangingUp rest)
  | .destroying =>
    if rooms.locked entry.lobby then rooms
    else { rooms.onDestroy item.room entry with teardowns := rooms.teardowns.eraseIdx place }

def teardown (rooms : Rooms) (place : Nat) : Rooms :=
  match rooms.teardowns[place]? with
  | none => rooms
  | some item =>
    match rooms.rooms[item.room]? with
    | none => rooms
    | some entry => rooms.turn place item entry item.stage

def act (rooms : Rooms) : RoomLabel → Rooms
  | .create lobby name nodeId distributed heartbeatTimeout =>
    rooms.create lobby name nodeId distributed heartbeatTimeout
  | .register room => rooms.register room
  | .perform room op => rooms.perform room op
  | .teardown place => rooms.teardown place

def present (channel : Channel) (user : Transport) : Bool :=
  (channel.connections.store.get? user.id).any (fun connection => decide (connection.serial = user.serial)) &&
    channel.memberships.has user.id

def Spares (rooms : Rooms) : RoomLabel → Prop
  | .teardown place => ∀ item entry, rooms.teardowns[place]? = some item → rooms.rooms[item.room]? = some entry →
      (∀ user ∈ entry.arrived, present entry.channel user = true →
        ∀ next, (rooms.teardown place).rooms[item.room]? = some next → present next.channel user = true) ∧
      (∀ connection rest, item.stage = .hangingUp (connection :: rest) →
        ∀ user ∈ entry.arrived, user.serial ≠ connection.serial) ∧
      ∀ newer, item.room < newer →
        (rooms.lobbies.get? entry.key = some newer → (rooms.teardown place).lobbies.get? entry.key = some newer) ∧
          (rooms.endpoint.get? entry.name = some newer → (rooms.teardown place).endpoint.get? entry.name = some newer)
  | _ => True

def Timely (rooms : Rooms) : RoomLabel → Prop
  | .teardown place => ∀ item entry, rooms.teardowns[place]? = some item → rooms.rooms[item.room]? = some entry →
      match item.stage with
      | .closing => entry.channel.done = true ∨ entry.channel.store.len = 0
      | .hangingUp _ => True
      | .destroying => entry.registration = .stored ∧
          (entry.destroyed = false ∨ rooms.lobbies.has entry.key = false ∧ rooms.endpoint.has entry.name = false)
  | _ => True

structure Kept (rooms : Rooms) : Prop where
  matched : ∀ (place : Nat) (room : Room), rooms.rooms[place]? = some room → room.channel.Matched
  nobody : ∀ item ∈ rooms.teardowns, ∀ rest, item.stage = .hangingUp rest → rest = []
  holds : ∀ (place : Nat) (room : Room), rooms.rooms[place]? = some room → room.destroyed = false →
    rooms.lobbies.get? room.key = some place
  stores : ∀ (place : Nat) (room : Room), rooms.rooms[place]? = some room → room.registration = .stored →
    room.destroyed = false → rooms.endpoint.get? room.name = some place

theorem updated_room {room place : Nat} (change : Room → Room) (next : Room)
    (found : (rooms.update room change).rooms[place]? = some next) :
    ∃ before, rooms.rooms[place]? = some before ∧ next = if room = place then change before else before :=
  get_modify found

variable {entry : Room}

theorem updated_same (next : Room) (there : rooms.rooms[room]? = some entry)
    (found : (rooms.update room change).rooms[room]? = some next) : next = change entry := by
  obtain ⟨_, held, same⟩ := updated_room rooms change next found
  rw [if_pos rfl, some.inj (held.symm.trans there)] at same
  exact same

structure SamePlace (before next : Room) : Prop where
  key : next.key = before.key
  registration : next.registration = before.registration
  destroyed : next.destroyed = before.destroyed
  matched : before.channel.Matched → next.channel.Matched

theorem kept_channels {rooms next : Rooms} (lobbies : next.lobbies = rooms.lobbies)
    (endpoint : next.endpoint = rooms.endpoint)
    (nobody : ∀ item ∈ next.teardowns, ∀ rest, item.stage = .hangingUp rest → rest = [])
    (each : ∀ (place : Nat) (room : Room), next.rooms[place]? = some room →
      ∃ before, rooms.rooms[place]? = some before ∧ SamePlace before room) (kept : rooms.Kept) : next.Kept := by
  refine ⟨?_, nobody, ?_, ?_⟩
  · intro place room there
    obtain ⟨before, found, same⟩ := each place room there
    exact same.matched (kept.matched place before found)
  · intro place room there standing
    obtain ⟨before, found, same⟩ := each place room there
    rw [lobbies, same.key]
    exact kept.holds place before found (same.destroyed ▸ standing)
  · intro place room there stored standing
    obtain ⟨before, found, same⟩ := each place room there
    have name : room.name = before.name := congrArg Prod.snd same.key
    rw [endpoint, name]
    exact kept.stores place before found (same.registration ▸ stored) (same.destroyed ▸ standing)

theorem same_updated (same : ∀ entry, SamePlace entry (change entry))
    (place : Nat) (next : Room) (found : (rooms.update room change).rooms[place]? = some next) :
    ∃ before, rooms.rooms[place]? = some before ∧ SamePlace before next := by
  obtain ⟨before, there, changed⟩ := updated_room rooms change next found
  refine ⟨before, there, ?_⟩
  rw [changed]
  split
  · exact same before
  · exact ⟨rfl, rfl, rfl, id⟩

theorem matched_updated
    (keeps : ∀ entry : Room, entry.channel.Matched → (change entry).channel.Matched) (kept : rooms.Kept) (place : Nat)
    (next : Room) (found : (rooms.update room change).rooms[place]? = some next) : next.channel.Matched := by
  obtain ⟨before, held, changed⟩ := updated_room rooms change next found
  have matched := kept.matched place before held
  rw [changed]
  split
  · exact keeps before matched
  · exact matched

theorem holds_updated
    (same : ∀ entry : Room, (change entry).key = entry.key ∧ (change entry).destroyed = entry.destroyed)
    (kept : rooms.Kept) (place : Nat) (next : Room) (found : (rooms.update room change).rooms[place]? = some next)
    (standing : next.destroyed = false) : rooms.lobbies.get? next.key = some place := by
  obtain ⟨before, held, changed⟩ := updated_room rooms change next found
  have facts : next.key = before.key ∧ next.destroyed = before.destroyed := by
    rw [changed]
    split
    · exact same before
    · exact ⟨rfl, rfl⟩
  rw [facts.1]
  exact kept.holds place before held (facts.2 ▸ standing)

theorem kept_create (lobby : Nat) (name : String) (nodeId : NodeId) (distributed : Bool)
    (heartbeatTimeout : Nat) (kept : rooms.Kept) : (rooms.create lobby name nodeId distributed heartbeatTimeout).Kept := by
  simp only [create]
  split
  · exact kept
  rename_i free
  have absent := Bool.eq_false_iff.mpr (not_or.mp free).2
  -- Whoever had the name in this lobby before is destroyed.
  have other : ∀ (place : Nat) (room : Room), rooms.rooms[place]? = some room → room.destroyed = false →
      room.key ≠ (lobby, name) := by
    intro place room there standing same
    have held := kept.holds place room there standing
    rw [same, has_false_iff.mp absent] at held
    cases held
  refine ⟨?_, kept.nobody, ?_, ?_⟩
  · intro place room there
    rcases get_concat there with before | ⟨_, rfl⟩
    · exact kept.matched place room before
    · exact fun _ => ⟨rfl, rfl⟩
  · intro place room there standing
    rcases get_concat there with before | ⟨rfl, rfl⟩
    · rw [get_set_other (other place room before standing)]
      exact kept.holds place room before standing
    · exact get_set_same
  · intro place room there stored standing
    rcases get_concat there with before | ⟨_, rfl⟩
    · exact kept.stores place room before stored standing
    · cases stored

theorem kept_register (kept : rooms.Kept) : (rooms.register room).Kept := by
  simp only [register]
  cases found : rooms.rooms[room]? with
  | none => exact kept
  | some entry =>
    dsimp only
    split
    · exact kept
    split
    · -- The endpoint has the name already.
      refine ⟨?_, kept.nobody, ?_, ?_⟩
      · exact matched_updated rooms room _ (fun before => Channel.matched_close before.channel) kept
      · exact holds_updated rooms room _ (fun _ => ⟨rfl, rfl⟩) kept
      · intro place next there stored standing
        obtain ⟨before, held, changed⟩ := updated_room rooms _ next there
        split at changed
        · rw [changed] at stored
          cases stored
        · rw [changed] at stored standing ⊢
          exact kept.stores place before held stored standing
    · rename_i free
      have absent := has_false_iff.mp (Bool.eq_false_iff.mpr free)
      refine ⟨?_, kept.nobody, ?_, ?_⟩
      · exact matched_updated rooms room _ (fun _ => id) kept
      · exact holds_updated rooms room _ (fun _ => ⟨rfl, rfl⟩) kept
      · intro place next there stored standing
        obtain ⟨before, held, changed⟩ := updated_room rooms _ next there
        by_cases here : room = place
        · subst here
          rw [if_pos rfl, some.inj (held.symm.trans found)] at changed
          rw [changed]
          exact get_set_same
        rw [if_neg here] at changed
        rw [changed] at stored standing ⊢
        have known := kept.stores place before held stored standing
        have different : before.name ≠ entry.name := by
          intro same
          rw [same, absent] at known
          cases known
        rw [get_set_other different]
        exact known

theorem kept_perform (op : ChannelOp) (kept : rooms.Kept) : (rooms.perform room op).Kept := by
  simp only [perform]
  cases rooms.rooms[room]? with
  | none => exact kept
  | some entry =>
    apply kept_channels _ _ _ _ kept
    · rfl
    · rfl
    · intro item member
      rcases mem_append.mp member with before | started
      · exact kept.nobody item before
      rw [eq_of_mem_replicate started]
      intro rest impossible
      cases impossible
    · apply same_updated rooms room
      exact fun entry => ⟨rfl, rfl, rfl, Channel.matched_act entry.channel op⟩

theorem len_zero {T : Type} {store : Store T} (empty : store.len = 0) (key : UserId) : store.has key = false := by
  have none : store.store.isEmpty = true := isEmpty_iff.mpr (length_eq_zero_iff.mp empty)
  exact empty_iff.mp none key

theorem nobody_connected {channel : Channel} (matched : channel.Matched) (empty : channel.store.len = 0) :
    channel.connections.store.values = [] := by
  have absent : ∀ userId, channel.connections.store.has userId = false := by
    intro userId
    obtain ⟨stored, connected⟩ := matched userId
    exact connected.trans (stored.symm.trans (len_zero empty userId))
  have none := isEmpty_iff.mp (empty_iff.mpr absent)
  rw [values, none]
  rfl

theorem kept_destroy {place : Nat} (found : rooms.rooms[room]? = some entry) (stored : entry.registration = .stored)
    (first : entry.destroyed = false ∨ rooms.lobbies.has entry.key = false ∧ rooms.endpoint.has entry.name = false)
    (kept : rooms.Kept) : Kept { rooms.onDestroy room entry with teardowns := rooms.teardowns.eraseIdx place } := by
  -- Any other room that stands has other names than the one that goes.
  have apart : ∀ (other : Nat) (next : Room), rooms.rooms[other]? = some next → next.destroyed = false → room ≠ other →
      next.key ≠ entry.key ∧ (next.registration = .stored → next.name ≠ entry.name) := by
    intro other next there standing different
    have held := kept.holds other next there standing
    constructor
    · intro same
      rcases first with standing' | ⟨absent, _⟩
      · rw [same, kept.holds room entry found standing'] at held
        exact different (some.inj held)
      · rw [same, has_false_iff.mp absent] at held
        cases held
    · intro registered same
      have known := kept.stores other next there registered standing
      rcases first with standing' | ⟨_, absent⟩
      · rw [same, kept.stores room entry found stored standing'] at known
        exact different (some.inj known)
      · rw [same, has_false_iff.mp absent] at known
        cases known
  refine ⟨?_, fun item member => kept.nobody item (mem_of_mem_eraseIdx member), ?_, ?_⟩
  · exact matched_updated rooms room _ (fun _ => id) kept
  · intro other next there standing
    obtain ⟨before, held, changed⟩ := updated_room rooms _ next there
    by_cases here : room = other
    · rw [if_pos here] at changed
      rw [changed] at standing
      cases standing
    rw [if_neg here] at changed
    rw [changed] at standing ⊢
    change (rooms.lobbies.delete entry.key).get? before.key = some other
    rw [get_delete_other (apart other before held standing here).1]
    exact kept.holds other before held standing
  · intro other next there registered standing
    obtain ⟨before, held, changed⟩ := updated_room rooms _ next there
    by_cases here : room = other
    · rw [if_pos here] at changed
      rw [changed] at standing
      cases standing
    rw [if_neg here] at changed
    rw [changed] at registered standing ⊢
    change (rooms.endpoint.delete entry.name).get? before.name = some other
    rw [get_delete_other ((apart other before held standing here).2 registered)]
    exact kept.stores other before held registered standing

variable {place}

theorem teardown_turn {item : Teardown} (there : rooms.teardowns[place]? = some item)
    (found : rooms.rooms[item.room]? = some entry) : rooms.teardown place = rooms.turn place item entry item.stage := by
  simp [teardown, there, found]

theorem kept_teardown (timely : rooms.Timely (.teardown place)) (kept : rooms.Kept) :
    (rooms.teardown place).Kept := by
  cases there : rooms.teardowns[place]? with
  | none =>
    simp only [teardown, there]
    exact kept
  | some item =>
    cases found : rooms.rooms[item.room]? with
    | none =>
      simp only [teardown, there, found]
      exact kept
    | some entry =>
      rw [teardown_turn rooms there found]
      have soon := timely item entry there found
      have written : ∀ stage, (∀ rest, stage = .hangingUp rest → rest = []) →
          ∀ other ∈ rooms.teardowns.set place { item with stage := stage }, ∀ rest, other.stage = .hangingUp rest →
            rest = [] := by
        intro stage empty other member
        rcases mem_or_eq_of_mem_set member with old | rfl
        · exact kept.nobody other old
        · exact empty
      cases stage : item.stage with
      | closing =>
        rw [stage] at soon
        apply kept_channels _ _ _ _ kept
        · rfl
        · rfl
        · apply written
          intro rest same
          cases same
          split
          · rfl
          · rename_i running
            exact nobody_connected (kept.matched _ entry found) (soon.resolve_left running)
        · apply same_updated rooms item.room
          exact fun entry => ⟨rfl, rfl, rfl, Channel.matched_close entry.channel⟩
      | hangingUp rest =>
        cases kept.nobody item (mem_of_getElem? there) rest stage
        apply kept_channels _ _ _ _ kept
        · rfl
        · rfl
        · apply written
          intro rest impossible
          cases impossible
        · exact fun other room held => ⟨room, held, rfl, rfl, rfl, id⟩
      | destroying =>
        rw [stage] at soon
        simp only [turn]
        split
        · exact kept
        · exact kept_destroy rooms item.room found soon.1 soon.2 kept

theorem kept_act (label : RoomLabel) (kept : rooms.Kept) (timely : rooms.Timely label) :
    (rooms.act label).Kept := by
  cases label with
  | create lobby name nodeId distributed heartbeatTimeout =>
    exact kept_create rooms lobby name nodeId distributed heartbeatTimeout kept
  | register room => exact kept_register rooms room kept
  | perform room op => exact kept_perform rooms room op kept
  | teardown => exact kept_teardown rooms timely kept

theorem kept_spares (label : RoomLabel) (kept : rooms.Kept) (timely : rooms.Timely label) :
    rooms.Spares label := by
  cases label with
  | create | register | perform => trivial
  | teardown =>
    intro item entry there found
    have soon := timely item entry there found
    rw [teardown_turn rooms there found]
    cases stage : item.stage with
    | closing =>
      rw [stage] at soon
      refine ⟨fun user _ here next after => ?_, fun _ _ impossible => (by cases impossible), fun _ _ => ⟨id, id⟩⟩
      rw [updated_same rooms item.room _ next found after]
      rcases soon with done | empty
      · rw [Channel.closeLocked, if_pos done]
        exact here
      -- Nobody is in a channel whose store is empty.
      obtain ⟨stored, _⟩ := kept.matched _ entry found user.id
      have absent := stored.symm.trans (len_zero empty user.id)
      simp [present, absent] at here
    | hangingUp rest =>
      cases kept.nobody item (mem_of_getElem? there) rest stage
      refine ⟨fun user _ here next after => ?_, fun _ _ impossible => (by cases impossible), fun _ _ => ⟨id, id⟩⟩
      have same : rooms.rooms[item.room]? = some next := after
      rw [← some.inj (found.symm.trans same)]
      exact here
    | destroying =>
      rw [stage] at soon
      obtain ⟨stored, first⟩ := soon
      refine ⟨fun user _ here next after => ?_, fun _ _ impossible => (by cases impossible), fun newer later => ?_⟩
      · simp only [turn] at after
        split at after
        · rw [← some.inj (found.symm.trans after)]
          exact here
        · rw [updated_same rooms item.room _ next found after]
          exact here
      simp only [turn]
      split
      · exact ⟨id, id⟩
      rcases first with standing | ⟨unnamed, unlisted⟩
      · -- Its own entries are all there is to delete.
        rw [kept.holds _ entry found standing, kept.stores _ entry found stored standing]
        exact ⟨fun same => absurd (some.inj same) (Nat.ne_of_lt later),
          fun same => absurd (some.inj same) (Nat.ne_of_lt later)⟩
      · rw [has_false_iff.mp unnamed, has_false_iff.mp unlisted]
        exact ⟨fun impossible => (by cases impossible), fun impossible => (by cases impossible)⟩

theorem teardown_spares (labels : List RoomLabel) (timely : Follows act Timely {} labels) :
    Follows act Spares {} labels := by
  have initial : Kept {} := by
    refine ⟨?_, ?_, ?_, ?_⟩
    · intro place room there
      cases there
    · intro item member
      cases member
    · intro place room there
      cases there
    · intro place room there
      cases there
  exact follows_of_inv act Timely Spares Kept kept_act kept_spares {} labels initial timely

def opening : List RoomLabel := [.create 0 "room" "node-1" false 90000, .register 0]

def visit (room : Nat) (serial : Nat) : List RoomLabel :=
  [.perform room (.addUser ⟨"u", serial, none⟩), .perform room (.removeUser "u" "left")]

def returning : List RoomLabel := opening ++ visit 0 0 ++ [.perform 0 (.addUser ⟨"u", 1, none⟩)]

def reopening : List RoomLabel :=
  opening ++ visit 0 0 ++ visit 0 1 ++
    [.teardown 0, .teardown 0, .teardown 0, .create 0 "room" "node-2" false 90000, .register 1,
      .perform 1 (.addUser ⟨"u", 2, none⟩), .teardown 0, .teardown 0]

theorem teardown_hits_newcomer :
    ¬ (run act {} returning).Spares (.teardown 0) ∧ ¬ (run act {} reopening).Spares (.teardown 0) := by
  constructor
  · have item : ((run act {} returning).teardowns[0]?).any (fun item => decide (item.room = 0)) = true := by
      decide +kernel
    have room : ((run act {} returning).rooms[0]?).any (fun entry =>
        entry.arrived.any fun user => present entry.channel user &&
          (((run act {} returning).teardown 0).rooms[0]?).any fun next => !present next.channel user) = true := by
      decide +kernel
    intro spares
    obtain ⟨item, there, zero⟩ := (any_eq_true _ _).mp item
    obtain ⟨entry, found, hit⟩ := (any_eq_true _ _).mp room
    obtain ⟨user, arrived, both⟩ := any_eq_true.mp hit
    obtain ⟨here, gone⟩ := Bool.and_eq_true_iff.mp both
    obtain ⟨next, after, absent⟩ := (any_eq_true _ _).mp gone
    have same := of_decide_eq_true zero
    rw [← same] at found
    have kept := (spares item entry there found).1 user arrived here next (by rw [same]; exact after)
    rw [kept] at absent
    cases absent
  · have item : ((run act {} reopening).teardowns[0]?).any (fun item => decide (item.room = 0)) = true := by
      decide +kernel
    have room : ((run act {} reopening).rooms[0]?).any (fun entry =>
        decide ((run act {} reopening).lobbies.get? entry.key = some 1) &&
          !((run act {} reopening).teardown 0).lobbies.has entry.key) = true := by
      decide +kernel
    intro spares
    obtain ⟨item, there, zero⟩ := (any_eq_true _ _).mp item
    obtain ⟨entry, found, both⟩ := (any_eq_true _ _).mp room
    obtain ⟨named, gone⟩ := Bool.and_eq_true_iff.mp both
    have same := of_decide_eq_true zero
    rw [← same] at found
    have kept := ((spares item entry there found).2.2 1 (by omega)).1 (of_decide_eq_true named)
    rw [has, kept] at gone
    cases gone

theorem timely_checked (checked : (rooms.teardowns[place]?).all (fun item => (rooms.rooms[item.room]?).all fun entry =>
      match item.stage with
      | .closing => entry.channel.done || decide (entry.channel.store.len = 0)
      | .hangingUp _ => true
      | .destroying => decide (entry.registration = .stored) && !entry.destroyed) = true) :
    rooms.Timely (.teardown place) := by
  intro item entry there found
  rw [there, all_some, found, all_some] at checked
  cases stage : item.stage with
  | closing => simpa [stage] using checked
  | hangingUp => trivial
  | destroying =>
    rw [stage] at checked
    simp only [Bool.and_eq_true, decide_eq_true_eq, Bool.not_eq_true'] at checked
    exact ⟨checked.1, .inl checked.2⟩

def singleVisit : List RoomLabel := opening ++ visit 0 0 ++ [.teardown 0, .teardown 0, .teardown 0]

theorem single_visit_spared : Follows act Spares {} singleVisit :=
  teardown_spares singleVisit
    ⟨trivial, trivial, trivial, trivial, timely_checked _ (by decide +kernel), timely_checked _ (by decide +kernel),
      timely_checked _ (by decide +kernel), trivial⟩

end Rooms

end PondSocket.Go
