import PondSocket.Python.Replica
import PondSocket.Library.Places
import PondSocket.Library.Run

namespace PondSocket.Python

open Library List OrderedMap
open Js (Json UserId NodeId)
open Go (MsgType index asString asMap asSlice)

namespace Channel

def hearUser (channel : Channel) (nodeId : NodeId) (userId : UserId) (user : Json) : Channel :=
  if userId = "" ∨ channel.connections.has userId = true then channel else channel.adoptUser nodeId userId user

def hearLeft (channel : Channel) (nodeId : NodeId) (userId : UserId) : Channel :=
  if userId = "" ∨ channel.connections.has userId = true then channel
  else
    { channel with
      assigns := channel.assigns.delete userId
      presence := channel.presence.delete userId }.untrackNodeUser nodeId userId

def dropRemoteUser (channel : Channel) (userId : UserId) : Channel :=
  if channel.connections.has userId then channel
  else { channel with assigns := channel.assigns.delete userId, presence := channel.presence.delete userId }

def evictNodeUsers (channel : Channel) (nodeId : NodeId) : Channel :=
  match channel.nodeUsers.get? nodeId with
  | none => channel
  | some users => users.keys.foldl dropRemoteUser { channel with nodeUsers := channel.nodeUsers.delete nodeId }

end Channel

structure CleanupRound where
  stale : List NodeId
  evicting : Option (NodeId × List Nat)

-- The coordinator of a node, with all channels of the node and the places of those
-- that are registered.
structure LivenessRun where
  nodeId : NodeId
  timeout : Nat
  now : Nat
  lastSeen : OrderedMap NodeId Nat
  channels : List Channel
  registered : List Nat
  round : Option CleanupRound

inductive LivenessStep where
  | pass (time : Nat)
  | heartbeat (nodeId : NodeId)
  | create (channel : Channel) (fresh : channel.nodeUsers = .empty)
  | register (place : Nat)
  | deactivate (place : Nat)
  | unregister (place : Nat)
  | hearUser (place : Nat) (nodeId : NodeId) (userId : UserId) (user : Json)
  | hearLeft (place : Nat) (nodeId : NodeId) (userId : UserId)
  | addUser (place : Nat) (transport : Transport) (assigns : Dict)
  | discardUser (place : Nat) (userId : UserId)
  | cleanup

namespace LivenessRun

def new (nodeId : NodeId) (timeout : Nat) : LivenessRun := ⟨nodeId, timeout, 0, .empty, [], [], none⟩

def update (run : LivenessRun) (place : Nat) (change : Channel → Channel) : LivenessRun :=
  { run with channels := run.channels.modify place change }

def noteNode (run : LivenessRun) (nodeId : NodeId) : LivenessRun :=
  if nodeId ≠ "" ∧ nodeId ≠ run.nodeId ∧ run.lastSeen.has nodeId = false then
    { run with lastSeen := run.lastSeen.set nodeId run.now }
  else run

def heartbeat (run : LivenessRun) (nodeId : NodeId) : LivenessRun :=
  if nodeId = run.nodeId then run else { run with lastSeen := run.lastSeen.set nodeId run.now }

def Hears (run : LivenessRun) (place : Nat) (nodeId : NodeId) (userId : UserId) : Prop :=
  nodeId ≠ run.nodeId ∧ userId ≠ "" ∧
    ∃ channel, run.channels[place]? = some channel ∧ channel.active = true ∧ channel.connections.has userId = false

def hearUser (run : LivenessRun) (place : Nat) (nodeId : NodeId) (userId : UserId) (user : Json) : LivenessRun :=
  match run.channels[place]? with
  | none => run
  | some channel =>
    if nodeId = run.nodeId ∨ channel.active = false then run
    else if userId = "" ∨ channel.connections.has userId = true then run
    else (run.update place fun channel => channel.hearUser nodeId userId user).noteNode nodeId

def hearLeft (run : LivenessRun) (place : Nat) (nodeId : NodeId) (userId : UserId) : LivenessRun :=
  if nodeId = run.nodeId then run
  else run.update place fun channel => if channel.active then channel.hearLeft nodeId userId else channel

def staleNodes (run : LivenessRun) : List NodeId :=
  (run.lastSeen.entries.filter fun entry => decide (entry.2 + run.timeout ≤ run.now)).map Prod.fst

def cleanup (run : LivenessRun) : LivenessRun :=
  match run.round with
  | none => { run with round := some ⟨run.staleNodes, none⟩ }
  | some ⟨stale, some (nodeId, places)⟩ =>
    match places with
    | [] => { run with lastSeen := run.lastSeen.delete nodeId, round := some ⟨stale, none⟩ }
    | place :: places =>
      { run.update place fun channel => channel.evictNodeUsers nodeId with
        round := some ⟨stale, some (nodeId, places)⟩ }
  | some ⟨stale, none⟩ =>
    match stale with
    | [] => { run with round := none }
    | nodeId :: stale => { run with round := some ⟨stale, some (nodeId, run.registered)⟩ }

-- A channel that closes is deactivated, and later unregistered and cleared.
def step (run : LivenessRun) : LivenessStep → LivenessRun
  | .pass time => { run with now := run.now + time }
  | .heartbeat nodeId => run.heartbeat nodeId
  | .create channel _ => { run with channels := run.channels ++ [channel] }
  | .register place => if place ∈ run.registered then run else { run with registered := run.registered ++ [place] }
  | .deactivate place => run.update place fun channel => { channel with active := false }
  | .unregister place =>
    { run.update place fun channel => { channel with nodeUsers := .empty } with
      registered := run.registered.filter fun other => decide (other ≠ place) }
  | .hearUser place nodeId userId user => run.hearUser place nodeId userId user
  | .hearLeft place nodeId userId => run.hearLeft place nodeId userId
  | .addUser place transport assigns => run.update place fun channel => (channel.addUser transport assigns).1
  | .discardUser place userId =>
    run.update place fun channel =>
      { channel with connections := channel.connections.delete userId, assigns := channel.assigns.delete userId,
                     presence := channel.presence.delete userId }
  | .cleanup => run.cleanup

def Tracks (run : LivenessRun) (place : Nat) (nodeId : NodeId) : Prop :=
  ∃ channel, run.channels[place]? = some channel ∧ channel.nodeUsers.has nodeId = true

def Listed (run : LivenessRun) : Prop :=
  ∀ place ∈ run.registered, ∀ nodeId, run.Tracks place nodeId → run.lastSeen.has nodeId = true

def Asking (run : LivenessRun) : Prop :=
  ∀ stale nodeId places, run.round = some ⟨stale, some (nodeId, places)⟩ →
    ∀ place ∈ run.registered, run.Tracks place nodeId → place ∈ places

-- A channel is registered while all nodes that it tracks have an entry and none is
-- being evicted, and a user of a node that is being evicted is not heard by a
-- registered channel that was asked already.
def Guarded (run : LivenessRun) : LivenessStep → Prop
  | .register place =>
    ∀ nodeId, run.Tracks place nodeId → run.lastSeen.has nodeId = true ∧
      ∀ stale places, run.round ≠ some ⟨stale, some (nodeId, places)⟩
  | .hearUser place nodeId userId _ =>
    run.Hears place nodeId userId → place ∈ run.registered →
      ∀ stale places, run.round = some ⟨stale, some (nodeId, places)⟩ → place ∈ places
  | _ => True

def DropsEmptied (run : LivenessRun) : LivenessStep → Prop
  | .cleanup =>
    ∀ stale nodeId, run.round = some ⟨stale, some (nodeId, [])⟩ → ∀ place ∈ run.registered, ¬ run.Tracks place nodeId
  | _ => True

def Overdue (run : LivenessRun) (nodeId : NodeId) : Prop :=
  ∃ seen, run.lastSeen.get? nodeId = some seen ∧ seen + run.timeout ≤ run.now

def Dropping (run : LivenessRun) (nodeId : NodeId) : Prop := ∃ stale, run.round = some ⟨stale, some (nodeId, [])⟩

def Awaits (run : LivenessRun) (nodeId : NodeId) : Prop :=
  ∃ stale evicting, run.round = some ⟨stale, evicting⟩ ∧ (nodeId ∈ stale ∨ ∃ places, evicting = some (nodeId, places))

def Leaves (run : LivenessRun) (place : Nat) (channel : Channel) (userId : UserId) : Prop :=
  channel.hasUser userId = false ∧ ∃ stale nodeId places users, run.round = some ⟨stale, some (nodeId, place :: places)⟩ ∧
    channel.nodeUsers.get? nodeId = some users ∧ users.has userId = true

def Evicts (run : LivenessRun) : LivenessStep → Prop
  | .cleanup =>
    ∀ place before, run.channels[place]? = some before → ∃ after, run.cleanup.channels[place]? = some after ∧
      after.connections = before.connections ∧ ∀ userId,
        (run.Leaves place before userId → after.row userId = (none, none)) ∧
          (¬ run.Leaves place before userId → after.row userId = before.row userId)
  | _ => True

end LivenessRun

namespace Channel

variable (channel : Channel)

variable (nodeId other : NodeId)

variable {userId : UserId}

theorem tracked_track (tracked : (channel.trackNodeUser nodeId userId).nodeUsers.has other = true) :
    channel.nodeUsers.has other = true ∨ other = nodeId ∧ nodeId ≠ "" := by
  simp only [trackNodeUser] at tracked
  split at tracked
  · exact .inl tracked
  rename_i named
  rcases has_set.mp tracked with same | before
  · exact .inr ⟨same, named⟩
  · exact .inl before

theorem tracked_untrack (tracked : (channel.untrackNodeUser nodeId userId).nodeUsers.has other = true) :
    channel.nodeUsers.has other = true := by
  simp only [untrackNodeUser] at tracked
  split at tracked
  · exact tracked
  split at tracked
  · exact tracked
  rename_i users held
  split at tracked
  · exact (has_delete.mp tracked).2
  rcases has_set.mp tracked with same | before
  · rw [same]
    exact has_iff.mpr ⟨users, held⟩
  · exact before

theorem tracked_hear (userId : UserId) (user : Json)
    (tracked : (channel.hearUser nodeId userId user).nodeUsers.has other = true) :
    channel.nodeUsers.has other = true ∨ other = nodeId ∧ nodeId ≠ "" := by
  have adopted : (channel.adoptUser nodeId userId user).nodeUsers =
      (channel.trackNodeUser nodeId userId).nodeUsers := by
    simp only [adoptUser]
    split
    · simp only [trackNodeUser]
      split <;> rfl
    split
    · simp only [trackNodeUser]
      split <;> rfl
    · simp only [trackNodeUser]
      split <;> rfl
  rw [hearUser] at tracked
  split at tracked
  · exact .inl tracked
  · rw [adopted] at tracked
    exact tracked_track channel nodeId other tracked

theorem tracked_left (tracked : (channel.hearLeft nodeId userId).nodeUsers.has other = true) :
    channel.nodeUsers.has other = true := by
  rw [hearLeft] at tracked
  split at tracked
  · exact tracked
  exact tracked_untrack { channel with
    assigns := channel.assigns.delete userId
    presence := channel.presence.delete userId } nodeId other tracked

theorem tracked_add (transport : Transport) (assigns : Dict) :
    (channel.addUser transport assigns).1.nodeUsers = channel.nodeUsers := by
  simp only [addUser, publishDistributed, publish]
  split
  · rfl
  split
  · rfl
  · split <;> rfl

theorem drop_remote_users {users : List UserId} (channel : Channel) :
    (users.foldl dropRemoteUser channel).nodeUsers = channel.nodeUsers ∧
      (users.foldl dropRemoteUser channel).connections = channel.connections ∧
        ∀ userId, (users.foldl dropRemoteUser channel).row userId =
          if userId ∈ users ∧ channel.hasUser userId = false then (none, none) else channel.row userId := by
  induction users generalizing channel with
  | nil => exact ⟨rfl, rfl, fun userId => (if_neg fun both => not_mem_nil both.1).symm⟩
  | cons user _ ih =>
    have dropped : (channel.dropRemoteUser user).nodeUsers = channel.nodeUsers ∧
        (channel.dropRemoteUser user).connections = channel.connections ∧
          ∀ userId, (channel.dropRemoteUser user).row userId =
            if userId = user ∧ channel.hasUser userId = false then (none, none) else channel.row userId := by
      rw [dropRemoteUser]
      by_cases here : channel.connections.has user = true
      · rw [if_pos here]
        refine ⟨rfl, rfl, fun userId => (if_neg ?_).symm⟩
        rintro ⟨same, absent⟩
        rw [same, hasUser, here] at absent
        cases absent
      rw [if_neg here]
      refine ⟨rfl, rfl, fun userId => ?_⟩
      simp only [row, get_delete]
      by_cases same : userId = user
      · have absent : channel.hasUser userId = false := by
          rw [same]
          exact Bool.eq_false_iff.mpr here
        rw [if_pos same, if_pos same, if_pos ⟨same, absent⟩]
      · rw [if_neg same, if_neg same, if_neg fun both => same both.1]
    obtain ⟨nodeUsers, connections, rows⟩ := ih (channel.dropRemoteUser user)
    rw [foldl_cons]
    refine ⟨nodeUsers.trans dropped.1, connections.trans dropped.2.1, fun userId => ?_⟩
    rw [rows, dropped.2.2, hasUser, dropped.2.1]
    simp only [mem_cons, hasUser]
    by_cases absent : channel.connections.has userId = false
    · by_cases same : userId = user
      · subst same
        simp [absent]
      · simp [same]
    · simp [absent]

def Forgets (channel : Channel) (nodeId : NodeId) (userId : UserId) : Prop :=
  channel.hasUser userId = false ∧ ∃ users, channel.nodeUsers.get? nodeId = some users ∧ users.has userId = true

theorem evict_spec {nodeId : NodeId} :
    (channel.evictNodeUsers nodeId).connections = channel.connections ∧
      (∀ other, (channel.evictNodeUsers nodeId).nodeUsers.has other = true →
        other ≠ nodeId ∧ channel.nodeUsers.has other = true) ∧
      ∀ userId, (channel.Forgets nodeId userId → (channel.evictNodeUsers nodeId).row userId = (none, none)) ∧
        (¬ channel.Forgets nodeId userId → (channel.evictNodeUsers nodeId).row userId = channel.row userId) := by
  rw [evictNodeUsers]
  cases held : channel.nodeUsers.get? nodeId with
  | none =>
    refine ⟨rfl, fun other tracked => ⟨?_, tracked⟩, fun userId => ⟨?_, fun _ => rfl⟩⟩
    · rintro rfl
      rw [has_false_iff.mpr held] at tracked
      cases tracked
    rintro ⟨_, users, found, _⟩
    rw [held] at found
    cases found
  | some users =>
    obtain ⟨nodeUsers, connections, rows⟩ := drop_remote_users
      { channel with nodeUsers := channel.nodeUsers.delete nodeId }
    refine ⟨connections, fun other tracked => ?_, fun userId => ?_⟩
    · rw [nodeUsers] at tracked
      exact has_delete.mp tracked
    rw [rows]
    constructor
    · rintro ⟨absent, _, there, member⟩
      rw [held] at there
      cases there
      exact if_pos ⟨mem_keys.mpr member, absent⟩
    · intro kept
      refine if_neg ?_
      rintro ⟨member, absent⟩
      exact kept ⟨absent, users, held, mem_keys.mp member⟩

end Channel

namespace LivenessRun

variable (run : LivenessRun) (label : LivenessStep)

variable (nodeId : NodeId)

theorem tracks_update {place other : Nat} {nodeId : NodeId} (change : Channel → Channel)
    (tracks : (run.update place change).Tracks other nodeId) :
    ∃ before, run.channels[other]? = some before ∧
      (if place = other then change before else before).nodeUsers.has nodeId = true := by
  obtain ⟨_, there, tracked⟩ := tracks
  obtain ⟨before, held, same⟩ := get_modify there
  rw [same] at tracked
  exact ⟨before, held, tracked⟩

theorem tracks_narrowed (place other : Nat) (nodeId : NodeId) (change : Channel → Channel)
    (narrows : ∀ channel, (change channel).nodeUsers.has nodeId = true → channel.nodeUsers.has nodeId = true)
    (tracks : (run.update place change).Tracks other nodeId) : run.Tracks other nodeId := by
  obtain ⟨before, held, tracked⟩ := tracks_update run change tracks
  refine ⟨before, held, ?_⟩
  split at tracked
  · exact narrows before tracked
  · exact tracked

theorem note_spec :
    (run.noteNode nodeId).channels = run.channels ∧ (run.noteNode nodeId).registered = run.registered ∧
      (run.noteNode nodeId).round = run.round ∧
        (∀ other, run.lastSeen.has other = true → (run.noteNode nodeId).lastSeen.has other = true) ∧
          (nodeId ≠ "" → nodeId ≠ run.nodeId → (run.noteNode nodeId).lastSeen.has nodeId = true) := by
  rw [noteNode]
  split
  · refine ⟨rfl, rfl, rfl, fun other known => has_set.mpr (.inr known), fun _ _ => ?_⟩
    exact has_set.mpr (.inl rfl)
  rename_i known
  refine ⟨rfl, rfl, rfl, fun other known => known, fun named foreign => ?_⟩
  by_contra unknown
  exact known ⟨named, foreign, Bool.not_eq_true _ ▸ unknown⟩

theorem keeps_narrowed (run after : LivenessRun) (registered : ∀ place ∈ after.registered, place ∈ run.registered)
    (tracks : ∀ place nodeId, after.Tracks place nodeId → run.Tracks place nodeId)
    (entries : ∀ nodeId, run.lastSeen.has nodeId = true → after.lastSeen.has nodeId = true)
    (round : after.round = run.round) (listed : run.Listed) (asking : run.Asking) : after.Listed ∧ after.Asking := by
  constructor
  · intro place member nodeId tracked
    exact entries nodeId (listed place (registered place member) nodeId (tracks place nodeId tracked))
  · intro stale nodeId places evicting place member tracked
    rw [round] at evicting
    exact asking stale nodeId places evicting place (registered place member) (tracks place nodeId tracked)

theorem hear_keeps (place : Nat) (nodeId : NodeId) (userId : UserId) (user : Json) (listed : run.Listed)
    (asking : run.Asking) (guarded : run.Guarded (.hearUser place nodeId userId user)) :
    (run.hearUser place nodeId userId user).Listed ∧ (run.hearUser place nodeId userId user).Asking := by
  rw [hearUser]
  cases there : run.channels[place]? with
  | none => exact ⟨listed, asking⟩
  | some channel =>
    dsimp only
    by_cases ignored : nodeId = run.nodeId ∨ channel.active = false
    · rw [if_pos ignored]
      exact ⟨listed, asking⟩
    rw [if_neg ignored]
    by_cases idle : userId = "" ∨ channel.connections.has userId = true
    · rw [if_pos idle]
      exact ⟨listed, asking⟩
    rw [if_neg idle]
    rw [not_or] at ignored idle
    obtain ⟨channels, registered, round, entries, noted⟩ :=
      (run.update place fun channel => channel.hearUser nodeId userId user).note_spec nodeId
    have hears : run.Hears place nodeId userId :=
      ⟨ignored.1, idle.1, channel, there, Bool.not_eq_false _ ▸ ignored.2, Bool.not_eq_true _ ▸ idle.2⟩
    -- What is tracked now was tracked before, or is the node that is noted.
    have tracks : ∀ other otherNode,
        ((run.update place fun channel => channel.hearUser nodeId userId user).noteNode nodeId).Tracks other otherNode →
          run.Tracks other otherNode ∨ other = place ∧ otherNode = nodeId ∧ nodeId ≠ "" := by
      rintro other otherNode ⟨after, found, tracked⟩
      rw [channels] at found
      obtain ⟨before, held, still⟩ := tracks_update run _ ⟨after, found, tracked⟩
      by_cases here : place = other
      · rw [if_pos here] at still
        rcases before.tracked_hear nodeId otherNode userId user still with old | ⟨same, named⟩
        · exact .inl ⟨before, held, old⟩
        · exact .inr ⟨here.symm, same, named⟩
      · rw [if_neg here] at still
        exact .inl ⟨before, held, still⟩
    constructor
    · intro other member otherNode tracked
      rw [registered] at member
      rcases tracks other otherNode tracked with old | ⟨_, same, named⟩
      · exact entries otherNode (listed other member otherNode old)
      · rw [same]
        exact noted named ignored.1
    · intro stale evictee places evicting other member tracked
      rw [round] at evicting
      rw [registered] at member
      rcases tracks other evictee tracked with old | ⟨here, same, _⟩
      · exact asking stale evictee places evicting other member old
      · rw [here] at member ⊢
        exact guarded hears member stale places (same ▸ evicting)

theorem cleanup_keeps (listed : run.Listed) (asking : run.Asking) :
    run.cleanup.Listed ∧ run.cleanup.Asking := by
  rw [cleanup]
  cases at_ : run.round with
  | none =>
    refine ⟨listed, ?_⟩
    intro stale nodeId places evicting
    cases evicting
  | some round =>
    obtain ⟨stale, evicting⟩ := round
    cases evicting with
    | none =>
      cases stale with
      | nil =>
        refine ⟨listed, ?_⟩
        intro stale nodeId places evicting
        cases evicting
      | cons =>
        refine ⟨listed, ?_⟩
        intro stale nodeId places evicting place member tracked
        cases evicting
        exact member
    | some evictee =>
      obtain ⟨evictee, places⟩ := evictee
      cases places with
      | nil =>
        constructor
        · intro place member nodeId tracked
          refine has_delete.mpr ⟨?_, listed place member nodeId tracked⟩
          rintro rfl
          exact not_mem_nil (asking stale nodeId [] at_ place member tracked)
        · intro stale nodeId places evicting
          cases evicting
      | cons place places =>
        have narrows : ∀ other nodeId, (run.update place fun channel => channel.evictNodeUsers evictee).Tracks other nodeId →
            run.Tracks other nodeId ∧ (other = place → nodeId ≠ evictee) := by
          intro other nodeId tracked
          obtain ⟨before, held, still⟩ := tracks_update run _ tracked
          by_cases here : place = other
          · rw [if_pos here] at still
            obtain ⟨apart, old⟩ := before.evict_spec.2.1 nodeId still
            exact ⟨⟨before, held, old⟩, fun _ => apart⟩
          · rw [if_neg here] at still
            exact ⟨⟨before, held, still⟩, fun same => absurd same.symm here⟩
        constructor
        · intro other member nodeId tracked
          exact listed other member nodeId (narrows other nodeId tracked).1
        · intro stale' nodeId places' evicting other member tracked
          cases evicting
          obtain ⟨old, apart⟩ := narrows other evictee tracked
          rcases mem_cons.mp (asking stale evictee (place :: places) at_ other member old) with same | later
          · exact absurd rfl (apart same)
          · exact later

theorem step_keeps (listed : run.Listed) (asking : run.Asking)
    (guarded : run.Guarded label) : (run.step label).Listed ∧ (run.step label).Asking := by
  cases label with
  | pass => exact ⟨listed, asking⟩
  | heartbeat =>
    rw [step, heartbeat]
    split
    · exact ⟨listed, asking⟩
    refine keeps_narrowed run _ (fun _ member => member) (fun _ _ tracked => tracked) ?_ rfl listed asking
    intro other known
    exact has_set.mpr (.inr known)
  | create _ fresh =>
    refine keeps_narrowed run _ (fun _ member => member) ?_ (fun _ known => known) rfl listed asking
    rintro place nodeId ⟨found, there, tracked⟩
    rcases get_concat there with old | ⟨_, new⟩
    · exact ⟨found, old, tracked⟩
    · rw [new, fresh] at tracked
      cases tracked
  | register =>
    rw [step]
    split
    · exact ⟨listed, asking⟩
    constructor
    · intro other member nodeId tracked
      rcases mem_append.mp member with old | new
      · exact listed other old nodeId tracked
      · rw [mem_singleton.mp new] at tracked
        exact (guarded nodeId tracked).1
    · intro stale nodeId places evicting other member tracked
      rcases mem_append.mp member with old | new
      · exact asking stale nodeId places evicting other old tracked
      · rw [mem_singleton.mp new] at tracked
        exact absurd evicting ((guarded nodeId tracked).2 stale places)
  | deactivate place =>
    exact keeps_narrowed run _ (fun _ member => member)
      (fun other nodeId => tracks_narrowed run place other nodeId _ fun channel tracked => tracked) (fun _ known => known) rfl
      listed asking
  | unregister place =>
    refine keeps_narrowed run _ (fun _ member => (mem_filter.mp member).1) ?_ (fun _ known => known) rfl listed asking
    intro other nodeId
    exact tracks_narrowed run place other nodeId _ fun channel tracked => by cases tracked
  | hearUser place nodeId userId user => exact hear_keeps run place nodeId userId user listed asking guarded
  | hearLeft place nodeId =>
    rw [step, hearLeft]
    split
    · exact ⟨listed, asking⟩
    refine keeps_narrowed run _ (fun _ member => member) ?_ (fun _ known => known) rfl listed asking
    intro other otherNode
    apply tracks_narrowed run place other otherNode
    intro channel tracked
    split at tracked
    · exact channel.tracked_left nodeId otherNode tracked
    · exact tracked
  | addUser place =>
    refine keeps_narrowed run _ (fun _ member => member) ?_ (fun _ known => known) rfl listed asking
    intro other nodeId
    apply tracks_narrowed run place other nodeId
    intro channel tracked
    rw [channel.tracked_add] at tracked
    exact tracked
  | discardUser place =>
    exact keeps_narrowed run _ (fun _ member => member)
      (fun other nodeId => tracks_narrowed run place other nodeId _ fun channel tracked => tracked) (fun _ known => known) rfl
      listed asking
  | cleanup => exact cleanup_keeps run listed asking

theorem cleanup_evicts : run.Evicts .cleanup := by
  intro place before there
  have kept : run.cleanup.channels = run.channels → (∀ userId, ¬ run.Leaves place before userId) →
      ∃ after, run.cleanup.channels[place]? = some after ∧ after.connections = before.connections ∧ ∀ userId,
        (run.Leaves place before userId → after.row userId = (none, none)) ∧
          (¬ run.Leaves place before userId → after.row userId = before.row userId) := by
    intro same nobody
    rw [same]
    exact ⟨before, there, rfl, fun userId => ⟨fun leaves => absurd leaves (nobody userId), fun _ => rfl⟩⟩
  -- Nobody leaves a channel that is not the next to be asked.
  have elsewhere : (∀ stale nodeId places, run.round ≠ some ⟨stale, some (nodeId, place :: places)⟩) →
      ∀ userId, ¬ run.Leaves place before userId := by
    rintro apart userId ⟨_, stale, nodeId, places, _, evicting, _⟩
    exact apart stale nodeId places evicting
  cases found : run.round with
  | none =>
    refine kept ?_ (elsewhere fun _ _ _ same => ?_)
    · rw [cleanup, found]
    · rw [found] at same
      cases same
  | some round =>
    obtain ⟨stale, evicting⟩ := round
    cases evicting with
    | none =>
      refine kept ?_ (elsewhere fun _ _ _ same => ?_)
      · rw [cleanup, found]
        cases stale <;> rfl
      · rw [found] at same
        cases same
    | some evictee =>
      obtain ⟨evictee, places⟩ := evictee
      cases places with
      | nil =>
        refine kept ?_ (elsewhere fun _ _ _ same => ?_)
        · rw [cleanup, found]
        · rw [found] at same
          cases same
      | cons asked places =>
        have channels : run.cleanup.channels = run.channels.modify asked fun channel => channel.evictNodeUsers evictee := by
          rw [cleanup, found]
          rfl
        obtain ⟨connections, _, rows⟩ := before.evict_spec
        by_cases here : asked = place
        · have leaves : ∀ userId, run.Leaves place before userId ↔ before.Forgets evictee userId := by
            intro userId
            constructor
            · rintro ⟨absent, _, nodeId, _, users, same, held, member⟩
              rw [found] at same
              cases same
              exact ⟨absent, users, held, member⟩
            · rintro ⟨absent, users, held, member⟩
              exact ⟨absent, stale, evictee, places, users, here ▸ found, held, member⟩
          refine ⟨before.evictNodeUsers evictee, ?_, connections, fun userId => ?_⟩
          · rw [channels, getElem?_modify, there, here]
            simp only [if_true]
            rfl
          · rw [leaves]
            exact rows userId
        · have nobody := elsewhere fun stale' nodeId places' same => by
            rw [found] at same
            cases same
            exact here rfl
          refine ⟨before, ?_, rfl, fun userId => ⟨fun leaves => absurd leaves (nobody userId), fun _ => rfl⟩⟩
          rw [channels, getElem?_modify, there]
          simp only [if_neg here]
          rfl

theorem drops_emptied (asking : run.Asking) : run.DropsEmptied label := by
  cases label with
  | cleanup =>
    intro stale nodeId evicting place member tracked
    exact not_mem_nil (asking stale nodeId [] evicting place member tracked)
  | _ => trivial

theorem evicts : run.Evicts label := by
  cases label with
  | cleanup => exact run.cleanup_evicts
  | _ => trivial

theorem step_round (other : label ≠ .cleanup) :
    (run.step label).round = run.round := by
  cases label with
  | cleanup => exact absurd rfl other
  | heartbeat =>
    rw [step, heartbeat]
    split <;> rfl
  | register =>
    rw [step]
    split <;> rfl
  | hearUser _ nodeId =>
    rw [step, hearUser]
    split
    · rfl
    split
    · rfl
    split
    · rfl
    · exact (note_spec _ nodeId).2.2.1
  | hearLeft =>
    rw [step, hearLeft]
    split <;> rfl
  | _ => rfl

theorem awaits_step (awaits : run.Awaits nodeId) :
    (run.step label).Awaits nodeId ∨ label = .cleanup ∧ run.Dropping nodeId := by
  by_cases other : label = .cleanup
  · subst other
    obtain ⟨stale, evicting, found, place⟩ := awaits
    simp only [step, cleanup, found]
    cases evicting with
    | none =>
      cases stale with
      | nil =>
        rcases place with member | ⟨_, same⟩
        · cases member
        · cases same
      | cons =>
        left
        rcases place with member | ⟨_, same⟩
        · rcases mem_cons.mp member with same | later
          · exact ⟨_, _, rfl, .inr ⟨run.registered, by rw [same]⟩⟩
          · exact ⟨_, _, rfl, .inl later⟩
        · cases same
    | some evictee =>
      obtain ⟨evictee, places⟩ := evictee
      rcases place with member | ⟨_, same⟩
      · left
        cases places <;> exact ⟨_, _, rfl, .inl member⟩
      cases same
      cases places with
      | nil => exact .inr ⟨trivial, stale, found⟩
      | cons _ places => exact .inl ⟨_, _, rfl, .inr ⟨places, rfl⟩⟩
  · left
    obtain ⟨stale, evicting, found, place⟩ := awaits
    exact ⟨stale, evicting, (run.step_round label other).trans found, place⟩

theorem awaits_run {steps : List LivenessStep} (awaits : run.Awaits nodeId)
    (ended : (Library.run step run steps).round = none) :
    ∃ mid later, steps = mid ++ .cleanup :: later ∧ (Library.run step run mid).Dropping nodeId := by
  induction steps generalizing run with
  | nil =>
    obtain ⟨_, _, found, _⟩ := awaits
    have same : run.round = none := ended
    rw [found] at same
    cases same
  | cons label rest ih =>
    rcases awaits_step run label nodeId awaits with still | ⟨same, dropping⟩
    · obtain ⟨mid, later, split, dropping⟩ := ih (run.step label) still ended
      exact ⟨label :: mid, later, by rw [split, cons_append], dropping⟩
    · exact ⟨[], rest, by rw [same, nil_append], dropping⟩

theorem overdue_awaits (idle : run.round = none) (overdue : run.Overdue nodeId) :
    (run.step .cleanup).Awaits nodeId := by
  obtain ⟨seen, held, old⟩ := overdue
  simp only [step, cleanup, idle]
  refine ⟨_, _, rfl, .inl (mem_map.mpr ⟨(nodeId, seen), mem_filter.mpr ⟨?_, decide_eq_true old⟩, rfl⟩)⟩
  exact mem_entries.mpr held

-- Every tracked node has an entry, a node whose entry is overdue when a cleanup round
-- starts is dropped before the round ends, and then no registered channel has users of
-- it; those who are connected are not evicted.
theorem liveness_kept (nodeId : NodeId) (timeout : Nat) (steps : List LivenessStep)
    (guarded : Follows step Guarded (new nodeId timeout) steps) :
    Always step Listed (new nodeId timeout) steps ∧ Follows step DropsEmptied (new nodeId timeout) steps ∧
      Follows step Evicts (new nodeId timeout) steps ∧ ∀ before after stale, steps = before ++ .cleanup :: after →
          (Library.run step (new nodeId timeout) before).round = none →
            (Library.run step (new nodeId timeout) before).Overdue stale →
              (Library.run step (new nodeId timeout) steps).round = none →
                ∃ mid later, after = mid ++ .cleanup :: later ∧
                  (Library.run step (new nodeId timeout) (before ++ .cleanup :: mid)).Dropping stale := by
  have keeps : ∀ run label, Listed run ∧ Asking run → Guarded run label → Listed (run.step label) ∧ Asking (run.step label) :=
    fun run label inv admitted => step_keeps run label inv.1 inv.2 admitted
  have initial : Listed (new nodeId timeout) ∧ Asking (new nodeId timeout) := by
    constructor
    · intro place member
      cases member
    · intro stale node places evicting
      cases evicting
  refine ⟨?_, ?_, ?_, ?_⟩
  · apply always_mono step (fun run => Listed run ∧ Asking run) Listed fun run inv => inv.1
    exact always_of_follows step Guarded _ keeps _ initial guarded
  · apply follows_of_inv step Guarded DropsEmptied _ keeps _ _ steps initial guarded
    intro run label inv _
    exact drops_emptied run label inv.2
  · exact follows_all step Evicts _ steps evicts
  · intro before after stale split idle overdue ended
    have awaits := overdue_awaits _ stale idle overdue
    rw [split, Library.run, foldl_append] at ended
    obtain ⟨mid, later, parts, dropping⟩ := awaits_run _ stale awaits ended
    refine ⟨mid, later, parts, ?_⟩
    rw [Library.run, foldl_append]
    exact dropping

def bob : Json := .object [("id", .string "bob"), ("assigns", .object []), ("presence", .object [])]

def room : Channel := (Channel.new "room" "/ws" "node-1" true).start

def silentNode : List LivenessStep :=
  [.create room rfl, .register 0, .hearUser 0 "node-2" "bob" bob, .pass 90, .cleanup, .cleanup, .cleanup, .cleanup, .cleanup]

theorem silent_node_dropped :
    Always step Listed (new "node-1" 90) silentNode ∧ Follows step DropsEmptied (new "node-1" 90) silentNode ∧
      Follows step Evicts (new "node-1" 90) silentNode ∧
        ∀ before after stale, silentNode = before ++ .cleanup :: after →
          (Library.run step (new "node-1" 90) before).round = none →
            (Library.run step (new "node-1" 90) before).Overdue stale →
              (Library.run step (new "node-1" 90) silentNode).round = none →
                ∃ mid later, after = mid ++ .cleanup :: later ∧
                  (Library.run step (new "node-1" 90) (before ++ .cleanup :: mid)).Dropping stale := by
  refine liveness_kept "node-1" 90 silentNode ⟨trivial, ?_, ?_, trivial, trivial, trivial, trivial, trivial, trivial, trivial⟩
  · rintro nodeId ⟨channel, there, tracked⟩
    cases there
    cases tracked
  · intro _ _ stale places evicting
    cases evicting

def lateRegistration : List LivenessStep :=
  [.create room rfl, .heartbeat "node-2", .pass 90, .hearUser 0 "node-2" "bob" bob, .cleanup, .cleanup, .cleanup, .cleanup,
    .register 0]

def lateJoin : List LivenessStep :=
  [.create room rfl, .register 0, .heartbeat "node-2", .pass 90, .cleanup, .cleanup, .cleanup, .cleanup, .cleanup,
    .hearUser 0 "node-2" "bob" bob, .pass 80, .cleanup, .cleanup]

theorem silent_node_stays :
    ((Library.run step (new "node-1" 90) lateRegistration).round = none ∧
      ¬ Listed (Library.run step (new "node-1" 90) lateRegistration)) ∧
      (Library.run step (new "node-1" 90) lateJoin).round = none ∧ (Library.run step (new "node-1" 90) lateJoin).now = 170 ∧
        0 ∈ (Library.run step (new "node-1" 90) lateJoin).registered ∧
          (Library.run step (new "node-1" 90) lateJoin).Tracks 0 "node-2" := by
  refine ⟨⟨rfl, fun listed => ?_⟩, rfl, rfl, mem_singleton_self 0, _, rfl, rfl⟩
  have entry := listed 0 (mem_singleton_self 0) "node-2" ⟨_, rfl, rfl⟩
  cases entry

end LivenessRun

end PondSocket.Python
