import PondSocket.Go.Handlers

namespace PondSocket.Go

open Library List OrderedMap
open Js (UserId NodeId)

variable {op : ChannelOp} {room : Nat}

namespace Rooms

variable (rooms : Rooms)

structure Listed (rooms : Rooms) : Prop where
  lobbies : ∀ key place, rooms.lobbies.get? key = some place →
    ∃ room, rooms.rooms[place]? = some room ∧ room.name = key.2
  endpoint : ∀ name place, rooms.endpoint.get? name = some place →
    ∃ room, rooms.rooms[place]? = some room ∧ room.name = name

variable {userId : UserId}

theorem listed_passes {rooms next : Rooms} (passes : Passes rooms next userId)
    (lobbies : ∀ key place, next.lobbies.get? key = some place →
      rooms.lobbies.get? key = some place ∨ ∃ room, next.rooms[place]? = some room ∧ room.name = key.2)
    (endpoint : ∀ name place, next.endpoint.get? name = some place →
      rooms.endpoint.get? name = some place ∨ ∃ room, next.rooms[place]? = some room ∧ room.name = name)
    (listed : rooms.Listed) : next.Listed := by
  constructor
  · intro key place found
    rcases lobbies key place found with before | new
    · obtain ⟨room, there, named⟩ := listed.lobbies key place before
      obtain ⟨after, held, same, _⟩ := passes.forth place room there
      exact ⟨after, held, same.trans named⟩
    · exact new
  · intro name place found
    rcases endpoint name place found with before | new
    · obtain ⟨room, there, named⟩ := listed.endpoint name place before
      obtain ⟨after, held, same, _⟩ := passes.forth place room there
      exact ⟨after, held, same.trans named⟩
    · exact new

variable {rooms}

theorem listed_create (lobby : Nat) (name : String) (nodeId : NodeId) (distributed : Bool) (heartbeatTimeout : Nat)
    (housed : rooms.Housed userId) (listed : rooms.Listed) :
    (rooms.create lobby name nodeId distributed heartbeatTimeout).Listed := by
  have passes := (housed_create lobby name nodeId distributed heartbeatTimeout housed).2
  apply listed_passes passes _ _ listed
  · intro key place found
    simp only [create] at found ⊢
    split at found
    · exact .inl found
    rename_i free
    rw [if_neg free]
    by_cases same : key = (lobby, name)
    · rw [same, get_set_same] at found
      rw [← Option.some.inj found, same]
      exact .inr ⟨_, getElem?_concat_length, rfl⟩
    · rw [get_set_other same] at found
      exact .inl found
  · intro other place found
    simp only [create] at found
    split at found
    · exact .inl found
    · exact .inl found

theorem listed_register (room : Nat) (housed : rooms.Housed userId) (listed : rooms.Listed) :
    (rooms.register room).Listed := by
  have passes := (housed_register room housed).2
  apply listed_passes passes _ _ listed
  · intro key place found
    refine .inl ?_
    simp only [register] at found
    cases there : rooms.rooms[room]? with
    | none =>
      simp only [there] at found
      exact found
    | some =>
      simp only [there] at found
      split at found
      · exact found
      split at found
      · exact found
      · exact found
  · intro name place found
    cases there : rooms.rooms[room]? with
    | none =>
      simp only [register, there] at found
      exact .inl found
    | some entry =>
      obtain ⟨after, held, same, _⟩ := passes.forth room entry there
      simp only [register, there] at found
      split at found
      · exact .inl found
      split at found
      · exact .inl found
      by_cases own : name = entry.name
      · rw [own, get_set_same] at found
        rw [← Option.some.inj found, own]
        exact .inr ⟨after, held, same⟩
      · rw [get_set_other own] at found
        exact .inl found

theorem perform_stores :
    (rooms.perform room op).lobbies = rooms.lobbies ∧ (rooms.perform room op).endpoint = rooms.endpoint := by
  simp only [perform]
  cases rooms.rooms[room]? with
  | none | some => exact ⟨rfl, rfl⟩

variable {place : Nat}

theorem perform_there {before : Room} (there : rooms.rooms[place]? = some before) :
    ∃ after, (rooms.perform room op).rooms[place]? = some after ∧ after.name = before.name ∧
      after.channel = if room = place then before.channel.act op else before.channel := by
  simp only [perform]
  cases found : rooms.rooms[room]? with
  | none =>
    refine ⟨before, there, rfl, ?_⟩
    rw [if_neg]
    intro same
    rw [same, there] at found
    cases found
  | some =>
    rw [update_there rooms room place _ before there]
    by_cases same : room = place
    · rw [if_pos same, if_pos same]
      exact ⟨_, rfl, rfl, rfl⟩
    · rw [if_neg same, if_neg same]
      exact ⟨before, rfl, rfl, rfl⟩

theorem perform_back {after : Room} (there : (rooms.perform room op).rooms[place]? = some after) :
    ∃ before, rooms.rooms[place]? = some before ∧ after.name = before.name ∧
      after.channel = if room = place then before.channel.act op else before.channel := by
  cases held : rooms.rooms[place]? with
  | some before =>
    obtain ⟨_, found, named, channel⟩ := perform_there held
    rw [there] at found
    cases found
    exact ⟨before, rfl, named, channel⟩
  | none =>
    have absent : (rooms.perform room op).rooms[place]? = none := by
      simp only [perform]
      cases rooms.rooms[room]? with
      | none => exact held
      | some =>
        simp only [update, getElem?_modify, held]
        rfl
    rw [absent] at there
    cases there

theorem listed_perform (listed : rooms.Listed) : (rooms.perform room op).Listed := by
  obtain ⟨lobbies, endpoint⟩ := perform_stores
  constructor
  · intro key place found
    rw [lobbies] at found
    obtain ⟨before, there, named⟩ := listed.lobbies key place found
    obtain ⟨after, held, same, _⟩ := perform_there there
    exact ⟨after, held, same.trans named⟩
  · intro name place found
    rw [endpoint] at found
    obtain ⟨_, there, named⟩ := listed.endpoint name place found
    obtain ⟨after, held, same, _⟩ := perform_there there
    exact ⟨after, held, same.trans named⟩

theorem teardown_stores (housed : rooms.Housed userId) :
    (∀ key found, (rooms.teardown place).lobbies.get? key = some found → rooms.lobbies.get? key = some found) ∧
      ∀ name found, (rooms.teardown place).endpoint.get? name = some found → rooms.endpoint.get? name = some found := by
  cases there : rooms.teardowns[place]? with
  | none =>
    simp only [teardown, there]
    exact ⟨fun _ _ => id, fun _ _ => id⟩
  | some item =>
    obtain ⟨entry, held, _⟩ := housed.ended item (mem_of_getElem? there)
    rw [teardown_turn rooms there held]
    cases stage : item.stage with
    | closing => exact ⟨fun _ _ => id, fun _ _ => id⟩
    | hangingUp rest =>
      rw [housed.kept.nobody item (mem_of_getElem? there) rest stage]
      exact ⟨fun _ _ => id, fun _ _ => id⟩
    | destroying =>
      simp only [turn]
      split
      · exact ⟨fun _ _ => id, fun _ _ => id⟩
      constructor
      · intro key found kept
        change (rooms.lobbies.delete entry.key).get? key = some found at kept
        rw [get_delete] at kept
        split at kept
        · cases kept
        · exact kept
      · intro name found kept
        change (rooms.endpoint.delete entry.name).get? name = some found at kept
        rw [get_delete] at kept
        split at kept
        · cases kept
        · exact kept

theorem listed_teardown (timely : rooms.Timely (.teardown place)) (housed : rooms.Housed userId)
    (listed : rooms.Listed) : (rooms.teardown place).Listed := by
  have passes := (housed_teardown timely housed).2
  obtain ⟨lobbies, endpoint⟩ := teardown_stores housed
  exact listed_passes passes (fun key found kept => .inl (lobbies key found kept))
    (fun name found kept => .inl (endpoint name found kept)) listed

end Rooms

namespace MessageRun

def StageFits (run : MessageRun) (handler : MessageHandler) : Prop :=
  match handler.stage with
  | .start => True
  | .registering room | .joining room => handler.request.action = .joinChannel ∧
      ∃ entry, run.rooms.rooms[room]? = some entry ∧ entry.name = handler.request.channelName
  | .leaving room => handler.request.action = .leaveChannel ∧
      ∃ entry, run.rooms.rooms[room]? = some entry ∧ entry.name = handler.request.channelName
  | .sending room => handler.request.action = .broadcast ∧
      ∃ entry, run.rooms.rooms[room]? = some entry ∧ entry.name = handler.request.channelName

structure Lined (run : MessageRun) : Prop where
  housed : run.rooms.Housed run.user.id
  listed : run.rooms.Listed
  line : run.handled.map Handled.index ++ run.handlers.map MessageHandler.index = List.range run.next
  taken : ∀ entry ∈ run.handled, run.requests[entry.index]? = some entry.request
  known : ∀ handler ∈ run.handlers, run.requests[handler.index]? = some handler.request
  stage : ∀ handler ∈ run.handlers, run.StageFits handler
  stands : ∀ name, standing run.handled name = true ↔ In run.rooms run.user.id name
  heard : ∀ name, ∀ join ∈ run.handled, ∀ sent ∈ run.handled, join.Joins name → sent.Refused name →
    join.index < sent.index → ∃ leave ∈ run.handled, leave.Leaves name ∧ join.index < leave.index ∧ leave.index < sent.index

theorem lined_sorted {run : MessageRun} (lined : run.Lined) : (run.handled.map Handled.index).Pairwise (· < ·) := by
  have sorted : (run.handled.map Handled.index ++ run.handlers.map MessageHandler.index).Pairwise (· < ·) := by
    rw [lined.line]
    exact pairwise_lt_range
  exact (pairwise_append.mp sorted).1

theorem lined_ordered (run : MessageRun) (lined : run.Lined) : run.Ordered := by
  have sorted := lined_sorted lined
  refine ⟨sorted, ?_, ?_⟩
  · intro name join joined sent sends joins refused before
    obtain ⟨leave, there, leaves, after, until'⟩ := lined.heard name join joined sent sends joins refused before
    exact ⟨leave.index, after, until', (lined.taken leave there).trans (congrArg some leaves)⟩
  intro name join joined leave there _ leaves _ last room member named holds
  obtain ⟨place, held⟩ := mem_iff_getElem?.mp member
  have stands := (lined.stands name).mpr ⟨place, room, held, named, holds⟩
  obtain ⟨since, known, joins, after⟩ := joined_since sorted stands
  apply last since.index (after leave there leaves)
  rw [lined.taken since known, joins.1]

theorem in_passes {rooms : Rooms} (next : Rooms) (userId : UserId) (passes : Rooms.Passes rooms next userId) (name : String) :
    In next userId name ↔ In rooms userId name := by
  constructor
  · intro inside
    obtain ⟨place, room, there, named, holds⟩ := inside
    obtain ⟨before, found, same, held⟩ := passes.back place room there holds
    exact ⟨place, before, found, same.symm.trans named, held⟩
  · intro inside
    obtain ⟨place, before, found, named, held⟩ := inside
    obtain ⟨room, there, same, holds⟩ := passes.forth place before found
    exact ⟨place, room, there, same.trans named, holds.mpr held⟩

def Stay (rooms next : Rooms) : Prop :=
  ∀ (place : Nat) (before : Room), rooms.rooms[place]? = some before →
    ∃ room, next.rooms[place]? = some room ∧ room.name = before.name

theorem stay_passes {rooms : Rooms} (next : Rooms) (userId : UserId) (passes : Rooms.Passes rooms next userId) : Stay rooms next := by
  intro place before there
  obtain ⟨room, found, same, _⟩ := passes.forth place before there
  exact ⟨room, found, same⟩

theorem stay_perform {rooms : Rooms} : Stay rooms (rooms.perform room op) := by
  intro place before there
  obtain ⟨after, found, same, _⟩ := Rooms.perform_there there
  exact ⟨after, found, same⟩

theorem stage_stays {run : MessageRun} (next : Rooms) (handler : MessageHandler) (stay : Stay run.rooms next)
    (fits : run.StageFits handler) : StageFits { run with rooms := next } handler := by
  unfold StageFits at fits ⊢
  cases stage : handler.stage with
  | start => exact trivial
  | registering room | joining room | leaving room | sending room =>
    rw [stage] at fits
    obtain ⟨action, before, there, named⟩ := fits
    obtain ⟨after, found, same⟩ := stay room before there
    exact ⟨action, after, found, same.trans named⟩

theorem lined_passes {run : MessageRun} {next : Rooms} (housed : next.Housed run.user.id) (listed : next.Listed)
    (passes : Rooms.Passes run.rooms next run.user.id) (lined : run.Lined) : Lined { run with rooms := next } := by
  have stay := stay_passes next run.user.id passes
  refine ⟨housed, listed, lined.line, lined.taken, lined.known, ?_, ?_, lined.heard⟩
  · exact fun handler member => stage_stays next handler stay (lined.stage handler member)
  · exact fun name => (lined.stands name).trans (in_passes next run.user.id passes name).symm

end MessageRun

end PondSocket.Go
