import PondSocket.Go.StaleNodes

namespace PondSocket.Go

open Library
open Js (Json UserId NodeId)

structure PresencePayload where
  event : String
  userId : UserId
  change : Json
  presence : List Json

namespace Channel

def trackLocked (channel : Channel) (userId : UserId) (presenceData : Json) :
    Except Failure (Channel × PresencePayload) :=
  match channel.presence.create userId presenceData with
  | .error failure => .error failure
  | .ok presence =>
    .ok ({ channel with presence := presence }, ⟨join, userId, presenceData, presence.store.values⟩)

def updateLocked (channel : Channel) (userId : UserId) (presenceData : Json) :
    Except Failure (Channel × PresencePayload) :=
  match channel.presence.update userId presenceData with
  | .error failure => .error failure
  | .ok presence =>
    .ok ({ channel with presence := presence }, ⟨update, userId, presenceData, presence.store.values⟩)

def unTrackLocked (channel : Channel) (userId : UserId) : Except Failure (Channel × PresencePayload) :=
  match channel.presence.read userId with
  | .error failure => .error failure
  | .ok old =>
    let presence := channel.presence.drop userId
    .ok ({ channel with presence := presence }, ⟨leave, userId, old, presence.store.values⟩)

def publishPresence (channel : Channel) (payload : PresencePayload) : Channel :=
  channel.publish (.presence payload.event payload.userId payload.change payload.presence)

def presenceCall (channel : Channel) (locked : Except Failure (Channel × PresencePayload)) :
    Channel × Option Failure :=
  match channel.checkState, locked with
  | some failure, _ => (channel, some failure)
  | none, .error failure => (channel, some failure)
  | none, .ok (next, payload) => (next.publishPresence payload, none)

def track (channel : Channel) (userId : UserId) (presenceData : Json) : Channel × Option Failure :=
  channel.presenceCall (channel.trackLocked userId presenceData)

def updatePresence (channel : Channel) (userId : UserId) (presenceData : Json) : Channel × Option Failure :=
  channel.presenceCall (channel.updateLocked userId presenceData)

def unTrackUser (channel : Channel) (userId : UserId) : Channel × Option Failure :=
  match channel.checkState with
  | some failure => (channel, some failure)
  | none => (channel.unTrack userId, none)

end Channel

inductive PresenceOp where
  | channel (op : ChannelOp)
  | track (userId : UserId) (presence : Json)
  | update (userId : UserId) (presence : Json)
  | unTrack (userId : UserId)

namespace Channel

variable (channel : Channel)

def perform (channel : Channel) (op : PresenceOp) : Channel :=
  match op with
  | .channel op => channel.act op
  | .track userId presence => (channel.track userId presence).1
  | .update userId presence => (channel.updatePresence userId presence).1
  | .unTrack userId => (channel.unTrackUser userId).1

theorem presence_call_frame (result : Except Failure (Channel × PresencePayload))
    (frame : ∀ next payload, result = .ok (next, payload) → next = { channel with presence := next.presence }) :
    (channel.presenceCall result).1 =
      { channel with
        presence := (channel.presenceCall result).1.presence
        published := (channel.presenceCall result).1.published } := by
  unfold presenceCall
  cases channel.checkState with
  | some => rfl
  | none =>
    cases result with
    | error => rfl
    | ok both =>
      obtain ⟨next, payload⟩ := both
      have same := frame next payload rfl
      dsimp only
      rw [publishPresence, publish_frame, same]

theorem track_call_frame (userId : UserId) (presenceData : Json) :
    (channel.track userId presenceData).1 =
      { channel with
        presence := (channel.track userId presenceData).1.presence
        published := (channel.track userId presenceData).1.published } := by
  apply presence_call_frame
  intro next payload done
  simp only [trackLocked] at done
  split at done
  · cases done
  · cases done
    rfl

theorem update_call_frame (userId : UserId) (presenceData : Json) :
    (channel.updatePresence userId presenceData).1 =
      { channel with
        presence := (channel.updatePresence userId presenceData).1.presence
        published := (channel.updatePresence userId presenceData).1.published } := by
  apply presence_call_frame
  intro next payload done
  simp only [updateLocked] at done
  split at done
  · cases done
  · cases done
    rfl

theorem un_track_call_frame (userId : UserId) :
    (channel.unTrackUser userId).1 =
      { channel with
        presence := (channel.unTrackUser userId).1.presence
        published := (channel.unTrackUser userId).1.published } := by
  unfold unTrackUser
  cases channel.checkState with
  | some => rfl
  | none => rw [un_track_frame]

theorem un_track_eq (userId : UserId) :
    channel.unTrack userId =
      match channel.unTrackLocked userId with
      | .error _ => channel
      | .ok (next, payload) => next.publishPresence payload := by
  simp only [unTrack, unTrackLocked]
  cases channel.presence.read userId <;> rfl

end Channel

end PondSocket.Go
