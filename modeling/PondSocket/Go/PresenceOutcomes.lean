import PondSocket.Go.PresenceCalls

namespace PondSocket.Go

open Library OrderedMap
open Js (Json UserId)

inductive PresenceCall
  | track (userId : UserId) (presenceData : Json)
  | trackConnectedUser (userId : UserId) (presenceData : Json)
  | update (userId : UserId) (presenceData : Json)
  | unTrack (userId : UserId)

inductive Queueing
  | queued
  | closed
  | timedOut
deriving DecidableEq

structure EventOutcome where
  encoded : Bool := true
  published : Bool := true
  queueing : Queueing := .queued

inductive CallError
  | refused (failure : Failure)
  | encoding
  | publication
  | cancelled
  | timeout
deriving DecidableEq

structure CallResult where
  channel : Channel
  queued : List (PresencePayload × List UserId) := []
  error : Option CallError := none

namespace PresenceCall

def userId : PresenceCall → UserId
  | .track userId _ | .trackConnectedUser userId _ | .update userId _ | .unTrack userId => userId

def requested : PresenceCall → Option Json
  | .track _ presenceData | .trackConnectedUser _ presenceData | .update _ presenceData => some presenceData
  | .unTrack _ => none

def event : PresenceCall → String
  | .track .. | .trackConnectedUser .. => join
  | .update .. => Go.update
  | .unTrack _ => leave

end PresenceCall

namespace Channel

variable (channel : Channel)

def recipientIDs : List UserId := channel.presence.keys.filter fun userId => channel.connections.keys.any (· == userId)

def publishPresenceEvent (payload : PresencePayload) (outcome : EventOutcome) : CallResult :=
  if channel.distributed && !outcome.encoded then { channel, error := some .encoding }
  else if channel.distributed && !outcome.published then { channel, error := some .publication }
  else if channel.recipientIDs = [] then { channel := channel.publishPresence payload }
  else
    match outcome.queueing with
    | .queued => { channel := channel.publishPresence payload, queued := [(payload, channel.recipientIDs)] }
    | .closed => { channel := channel.publishPresence payload, error := some .cancelled }
    | .timedOut => { channel := channel.publishPresence payload, error := some .timeout }

def locked : PresenceCall → Except Failure (Option (Channel × PresencePayload))
  | .track userId presenceData => (channel.trackLocked userId presenceData).map some
  | .trackConnectedUser userId presenceData =>
    match channel.memberships.read userId with
    | .error _ => .error .notFound
    | .ok membership =>
      if channel.active membership then (channel.trackLocked userId presenceData).map some else .error .notFound
  | .update userId presenceData => (channel.updateLocked userId presenceData).map some
  | .unTrack userId =>
    match channel.unTrackLocked userId with
    | .error _ => .ok none
    | .ok changed => .ok (some changed)

def presenceResult (call : PresenceCall) (outcome : EventOutcome) : CallResult :=
  match channel.checkState with
  | some failure => { channel, error := some (.refused failure) }
  | none =>
    match channel.locked call with
    | .error failure => { channel, error := some (.refused failure) }
    | .ok none => { channel }
    | .ok (some (next, payload)) => next.publishPresenceEvent payload outcome

structure Done (call : PresenceCall) (result : CallResult) (publications : List Publication) : Prop where
  store : ∀ userId, result.channel.presence.store.get? userId =
    if userId = call.userId then call.requested else channel.presence.store.get? userId
  event : ∃ change, result.channel.published = channel.published ++ publications ∧
    (∀ publication ∈ publications,
      publication = .presence call.event call.userId change result.channel.presence.store.values) ∧
    result.queued = if result.channel.recipientIDs = [] then []
      else [(⟨call.event, call.userId, change, result.channel.presence.store.values⟩, result.channel.recipientIDs)]

def Untouched (result : CallResult) : Prop := result.channel = channel ∧ result.queued = []

variable {channel}

variable {payload : PresencePayload} {call : PresenceCall} {next : Channel}

theorem locked_spec (done : channel.locked call = .ok (some (next, payload))) :
    next = { channel with presence := next.presence } ∧
      (∀ userId, next.presence.store.get? userId =
        if userId = call.userId then call.requested else channel.presence.store.get? userId) ∧
      payload = ⟨call.event, call.userId, payload.change, next.presence.store.values⟩ := by
  have track : ∀ userId presenceData, (channel.trackLocked userId presenceData).map some = .ok (some (next, payload)) →
      next = { channel with presence := next.presence } ∧
        (∀ other, next.presence.store.get? other =
          if other = userId then some presenceData else channel.presence.store.get? other) ∧
        payload = ⟨join, userId, payload.change, next.presence.store.values⟩ := by
    intro userId presenceData done
    simp only [trackLocked, Store.create] at done
    split at done
    · cases done
    rename_i presence created
    split at created
    · cases created
    cases created
    cases done
    exact ⟨rfl, fun other => get_set _ _ _ _, rfl⟩
  cases call with
  | track userId presenceData => exact track userId presenceData done
  | trackConnectedUser userId presenceData =>
    simp only [locked] at done
    split at done
    · cases done
    split at done
    · exact track userId presenceData done
    · cases done
  | update =>
    simp only [locked, updateLocked, Store.update] at done
    split at done
    · cases done
    rename_i presence updated
    split at updated
    · cases updated
      cases done
      exact ⟨rfl, fun other => get_set _ _ _ _, rfl⟩
    · cases updated
  | unTrack =>
    simp only [locked, unTrackLocked] at done
    split at done
    · cases done
    rename_i changed read
    split at read
    · cases read
    cases read
    cases done
    refine ⟨rfl, fun other => ?_, rfl⟩
    rw [Store.drop_store]
    exact get_delete _ _ _

theorem locked_none (same : channel.locked call = .ok none) :
    channel.presence.has call.userId = false ∧ call = .unTrack call.userId := by
  have map : ∀ result : Except Failure (Channel × PresencePayload), result.map some ≠ .ok none := by
    intro result
    cases result <;> simp [Except.map]
  cases call with
  | track | update => exact absurd same (map _)
  | trackConnectedUser =>
    simp only [locked] at same
    split at same
    · cases same
    split at same
    · exact absurd same (map _)
    · cases same
  | unTrack userId =>
    simp only [locked, unTrackLocked, Store.read] at same
    refine ⟨?_, rfl⟩
    cases found : channel.presence.store.get? userId with
    | none => exact has_false_iff.mpr found
    | some => simp [found] at same

variable {outcome : EventOutcome}

theorem publish_ok (done : (next.publishPresenceEvent payload outcome).error = none) :
    next.publishPresenceEvent payload outcome =
      { channel := next.publishPresence payload
        queued := if next.recipientIDs = [] then [] else [(payload, next.recipientIDs)] } := by
  revert done
  unfold publishPresenceEvent
  split
  · exact fun done => by cases done
  split
  · exact fun done => by cases done
  split
  · exact fun _ => rfl
  cases outcome.queueing with
  | queued => exact fun _ => rfl
  | closed | timedOut => exact fun done => by cases done

theorem publish_done (changed : next = { channel with presence := next.presence })
    (store : ∀ userId, next.presence.store.get? userId =
      if userId = call.userId then call.requested else channel.presence.store.get? userId)
    (made : payload = ⟨call.event, call.userId, payload.change, next.presence.store.values⟩)
    (done : (next.publishPresenceEvent payload outcome).error = none) :
    ∃ publication, channel.Done call (next.publishPresenceEvent payload outcome)
      (if channel.distributed then [publication] else []) := by
  have frame := next.publish_frame (.presence payload.event payload.userId payload.change payload.presence)
  have published : (next.publishPresence payload).published = channel.published ++ (if channel.distributed then
      [.presence payload.event payload.userId payload.change payload.presence] else []) := by
    rw [publishPresence, publish, distributed, changed]
    cases channel.distributed <;> simp
  have presence : (next.publishPresence payload).presence = next.presence := by rw [publishPresence, frame]
  have recipients : (next.publishPresence payload).recipientIDs = next.recipientIDs := by
    rw [publishPresence, frame]
    rfl
  rw [publish_ok done]
  refine ⟨_, ⟨fun userId => by rw [presence, store], payload.change, published, fun publication member => ?_, ?_⟩⟩
  · split at member
    · rw [List.mem_singleton.mp member, presence, made]
    · cases member
  · rw [recipients, presence, ← made]

theorem publish_failed (changed : next = { channel with presence := next.presence }) {error : CallError}
    (failed : (next.publishPresenceEvent payload outcome).error = some error) :
    (∀ failure, error ≠ .refused failure) ∧ (next.publishPresenceEvent payload outcome).queued = [] ∧
      (error ≠ .cancelled → error ≠ .timeout →
        (next.publishPresenceEvent payload outcome).channel.published = channel.published) := by
  have published : next.published = channel.published := by rw [changed]
  revert failed
  unfold publishPresenceEvent
  cases outcome.queueing <;> grind

-- Without an error the change is made, published and queued, but for a user to be untracked who is not tracked. An error
-- leaves nothing queued, and nothing published where it comes before the queueing. A refused call does nothing, and where
-- the event can be published and queued there is no other error.
theorem presence_calls_settle (channel : Channel) (call : PresenceCall) (outcome : EventOutcome) :
    ((channel.presenceResult call outcome).error = none →
      (∃ publication, channel.Done call (channel.presenceResult call outcome)
        (if channel.distributed then [publication] else [])) ∨
      call = .unTrack call.userId ∧ channel.presence.has call.userId = false ∧
        channel.Untouched (channel.presenceResult call outcome)) ∧
    (∀ error, (channel.presenceResult call outcome).error = some error →
      (channel.presenceResult call outcome).queued = [] ∧
      (error ≠ .cancelled → error ≠ .timeout →
        (channel.presenceResult call outcome).channel.published = channel.published) ∧
      ((∃ failure, error = .refused failure) → channel.Untouched (channel.presenceResult call outcome)) ∧
      (outcome = {} → ∃ failure, error = .refused failure)) := by
  unfold presenceResult
  split
  · rename_i failure _
    refine ⟨(fun none => by cases none), fun error same => ?_⟩
    exact ⟨rfl, fun _ _ => rfl, fun _ => ⟨rfl, rfl⟩, fun _ => ⟨failure, (Option.some.inj same).symm⟩⟩
  split
  · rename_i failure _
    refine ⟨(fun none => by cases none), fun error same => ?_⟩
    exact ⟨rfl, fun _ _ => rfl, fun _ => ⟨rfl, rfl⟩, fun _ => ⟨failure, (Option.some.inj same).symm⟩⟩
  · rename_i same
    obtain ⟨absent, named⟩ := locked_none same
    exact ⟨fun _ => .inr ⟨named, absent, rfl, rfl⟩, fun _ none => by cases none⟩
  · rename_i next payload locked
    obtain ⟨changed, store, made⟩ := locked_spec locked
    refine ⟨fun done => .inl (publish_done changed store made done), fun error failed => ?_⟩
    obtain ⟨apart, unqueued, unpublished⟩ := publish_failed changed failed
    refine ⟨unqueued, unpublished, fun refused => ?_, ?_⟩
    · obtain ⟨failure, same⟩ := refused
      exact absurd same (apart failure)
    · rintro rfl
      simp [publishPresenceEvent] at failed
      split at failed <;> cases failed

def Atomic (channel : Channel) (call : PresenceCall) (outcome : EventOutcome) : Prop :=
  ((channel.presenceResult call outcome).error = none →
    ∃ publication, channel.Done call (channel.presenceResult call outcome) [publication]) ∧
  ((channel.presenceResult call outcome).error ≠ none → channel.Untouched (channel.presenceResult call outcome))

theorem un_tracked_unpublished : ¬ Atomic (newChannel "room" "node" true false 0) (.unTrack "a") {} := by
  intro atomic
  obtain ⟨_, done⟩ := atomic.1 rfl
  obtain ⟨_, published, _⟩ := done.event
  cases published

end Channel

end PondSocket.Go
