import PondSocket.Js.Types

namespace PondSocket.Js

open Library

structure PresenceEngine where
  channelId : String
  presenceCache : OrderedMap UserId PondPresence

namespace PresenceEngine

variable (engine : PresenceEngine) (requestId : RequestId) (userId : UserId)

variable (data : PondPresence)

def new (channelId : String) : PresenceEngine := ⟨channelId, OrderedMap.empty⟩

def getPresence (engine : PresenceEngine) (userId : UserId) : Option PondPresence :=
  engine.presenceCache.get? userId

def getAllPresence (engine : PresenceEngine) : OrderedMap UserId PondPresence := engine.presenceCache

-- #processPresenceAction with the event it hands to #publish.
def processPresenceAction (engine : PresenceEngine) (requestId : RequestId) (action : PresenceEventTypes)
    (userId : UserId) (data : Option PondPresence) : Except Thrown (PresenceEngine × InternalChannelEvent) :=
  if action = .join ∧ engine.presenceCache.has userId = true then
    .error (.error s!"User with id {userId} already exists in the presence cache")
  else if (action = .update ∨ action = .leave) ∧ engine.presenceCache.has userId = false then
    .error (.error s!"User with id {userId} does not exist in the presence cache")
  else if action ≠ .leave ∧ data.isNone then
    .error (.error s!"Data is required for {action.text} action")
  else
    let current := engine.presenceCache.get? userId
    let presenceCache := match data with
      | some value => engine.presenceCache.set userId value
      | none => engine.presenceCache.delete userId
    .ok (⟨engine.channelId, presenceCache⟩,
      { action := .presence
        event := action.text
        channelName := engine.channelId
        requestId := requestId
        payload := .presence ((current.or data).getD OrderedMap.empty) presenceCache.values
        recipients := presenceCache.keys })

def trackPresence (engine : PresenceEngine) (requestId : RequestId) (userId : UserId)
    (data : Option PondPresence) : Except Thrown (PresenceEngine × InternalChannelEvent) :=
  engine.processPresenceAction requestId .join userId data

def updatePresence (engine : PresenceEngine) (requestId : RequestId) (userId : UserId)
    (data : Option PondPresence) : Except Thrown (PresenceEngine × InternalChannelEvent) :=
  engine.processPresenceAction requestId .update userId data

def removePresence (engine : PresenceEngine) (requestId : RequestId) (userId : UserId) :
    Except Thrown (PresenceEngine × InternalChannelEvent) :=
  engine.processPresenceAction requestId .leave userId none

def upsertPresence (engine : PresenceEngine) (requestId : RequestId) (userId : UserId)
    (data : Option PondPresence) : Except Thrown (PresenceEngine × InternalChannelEvent) :=
  if engine.presenceCache.has userId then engine.updatePresence requestId userId data
  else engine.trackPresence requestId userId data

def close (engine : PresenceEngine) : PresenceEngine := ⟨engine.channelId, OrderedMap.empty⟩

-- What a successful action leaves in the cache.
def applied (cache : OrderedMap UserId PondPresence) (userId : UserId) (data : Option PondPresence) :
    OrderedMap UserId PondPresence :=
  match data with
  | some value => cache.set userId value
  | none => cache.delete userId

theorem process_presence_ok {engine next : PresenceEngine} {requestId : RequestId} {action : PresenceEventTypes}
    {userId : UserId} {data : Option PondPresence} {event : InternalChannelEvent}
    (done : engine.processPresenceAction requestId action userId data = .ok (next, event)) :
    next = ⟨engine.channelId, applied engine.presenceCache userId data⟩ ∧ event.action = .presence ∧
      event.event = action.text ∧ event.recipients = next.presenceCache.keys := by
  simp only [processPresenceAction] at done
  split at done
  · cases done
  split at done
  · cases done
  split at done
  · cases done
  · obtain ⟨rfl, rfl⟩ := done
    cases data <;> exact ⟨rfl, rfl, rfl, rfl⟩

theorem remove_presence_present (present : engine.presenceCache.has userId = true) :
    ∃ event, engine.removePresence requestId userId =
      .ok (⟨engine.channelId, engine.presenceCache.delete userId⟩, event) := by
  simp [removePresence, processPresenceAction, present]

theorem remove_presence_absent (absent : engine.presenceCache.has userId = false) :
    ∃ thrown, engine.removePresence requestId userId = .error thrown := by
  simp [removePresence, processPresenceAction, absent]

variable {requestId userId data}

theorem track_presence_present (present : engine.presenceCache.has userId = true) :
    ∃ thrown, engine.trackPresence requestId userId (some data) = .error thrown := by
  simp [trackPresence, processPresenceAction, present]

theorem track_presence_absent (absent : engine.presenceCache.has userId = false) :
    ∃ event, engine.trackPresence requestId userId (some data) =
      .ok (⟨engine.channelId, engine.presenceCache.set userId data⟩, event) := by
  simp [trackPresence, processPresenceAction, absent]

theorem update_presence_present (present : engine.presenceCache.has userId = true) :
    ∃ event, engine.updatePresence requestId userId (some data) =
      .ok (⟨engine.channelId, engine.presenceCache.set userId data⟩, event) := by
  simp [updatePresence, processPresenceAction, present]

theorem update_presence_absent (absent : engine.presenceCache.has userId = false) :
    ∃ thrown, engine.updatePresence requestId userId (some data) = .error thrown := by
  simp [updatePresence, processPresenceAction, absent]

theorem upsert_presence_total :
    ∃ event, engine.upsertPresence requestId userId (some data) =
      .ok (⟨engine.channelId, engine.presenceCache.set userId data⟩, event) := by
  cases known : engine.presenceCache.has userId <;>
    simp [upsertPresence, updatePresence, trackPresence, processPresenceAction, known]

variable {engine}

theorem upsert_presence_missing_data :
    ∃ thrown, engine.upsertPresence requestId userId none = .error thrown := by
  cases known : engine.presenceCache.has userId <;>
    simp [upsertPresence, updatePresence, trackPresence, processPresenceAction, known]

end PresenceEngine

end PondSocket.Js
