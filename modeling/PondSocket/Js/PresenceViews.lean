import PondSocket.Js.ChannelHanded
import PondSocket.Js.ClientChannel
import PondSocket.Js.GhostMembers
import PondSocket.Js.Wiring

namespace PondSocket.Js

open Library List OrderedMap PresenceEngine

variable {action : PresenceEngine → RequestId → Except Thrown (PresenceEngine × InternalChannelEvent)}

variable {event : InternalChannelEvent} {requestId : RequestId}

namespace PresenceEngine

def taken (cache : OrderedMap UserId PondPresence) (op : EngineOp) : Option (OrderedMap UserId PondPresence) :=
  match op with
  | .trackPresence userId presence => if cache.has userId then none else some (cache.set userId presence)
  | .updatePresence userId presence => if cache.has userId then some (cache.set userId presence) else none
  | .upsertPresence userId presence => some (cache.set userId presence)
  | .removePresence userId => if cache.has userId then some (cache.delete userId) else none
  | .removeUser userId _ => if cache.has userId then some (cache.delete userId) else none
  | _ => none

def replay (cache : OrderedMap UserId PondPresence) (label : Nat × EngineOp) : OrderedMap UserId PondPresence :=
  (taken cache label.2).getD cache

def call (op : EngineOp) :
    Option (PresenceEngine → RequestId → Except Thrown (PresenceEngine × InternalChannelEvent)) :=
  match op with
  | .trackPresence userId presence => some fun inner requestId => inner.trackPresence requestId userId (some presence)
  | .updatePresence userId presence => some fun inner requestId => inner.updatePresence requestId userId (some presence)
  | .upsertPresence userId presence => some fun inner requestId => inner.upsertPresence requestId userId (some presence)
  | .removePresence userId => some fun inner requestId => inner.removePresence requestId userId
  | .removeUser userId _ => some fun inner requestId => inner.removePresence requestId userId
  | _ => none

structure Tells (event : InternalChannelEvent) (name : String) (cache : OrderedMap UserId PondPresence) : Prop where
  action : event.action = .presence
  channelName : event.channelName = name
  payload : ∃ changed, event.payload = .presence changed cache.values
  recipients : event.recipients = cache.keys

theorem process_presence_tells {engine : PresenceEngine} (next : PresenceEngine) (requestId : RequestId) (action : PresenceEventTypes)
    (userId : UserId) (data : Option PondPresence) (event : InternalChannelEvent)
    (done : engine.processPresenceAction requestId action userId data = .ok (next, event)) :
    Tells event engine.channelId next.presenceCache := by
  simp only [processPresenceAction] at done
  split at done
  · cases done
  split at done
  · cases done
  split at done
  · cases done
  · obtain ⟨rfl, rfl⟩ := done
    cases data <;> exact ⟨rfl, rfl, ⟨_, rfl⟩, rfl⟩

theorem call_tells {engine next : PresenceEngine} {op : EngineOp} (called : call op = some action)
    (done : action engine requestId = .ok (next, event)) : Tells event engine.channelId next.presenceCache := by
  cases op <;> cases called
  case trackPresence userId presence => exact process_presence_tells next requestId _ _ _ event done
  case updatePresence userId presence => exact process_presence_tells next requestId _ _ _ event done
  case upsertPresence userId presence =>
      simp only [upsertPresence] at done
      split at done <;> exact process_presence_tells next requestId _ _ _ event done
  case removePresence userId => exact process_presence_tells next requestId _ _ _ event done
  case removeUser userId skip => exact process_presence_tells next requestId _ _ _ event done

theorem call_spec (engine : PresenceEngine) (requestId : RequestId) {op : EngineOp} (called : call op = some action) :
    match taken engine.presenceCache op with
    | none => ∃ thrown, action engine requestId = .error thrown
    | some cache => ∃ event, action engine requestId = .ok (⟨engine.channelId, cache⟩, event) := by
  cases op <;> cases called
  case trackPresence userId presence =>
      cases known : engine.presenceCache.has userId with
      | true =>
        simp only [taken, known, if_true]
        exact engine.track_presence_present known
      | false =>
        simp only [taken, known, Bool.false_eq_true, if_false]
        exact engine.track_presence_absent known
  case updatePresence userId presence =>
      cases known : engine.presenceCache.has userId with
      | true =>
        simp only [taken, known, if_true]
        exact engine.update_presence_present known
      | false =>
        simp only [taken, known, Bool.false_eq_true, if_false]
        exact engine.update_presence_absent known
  case upsertPresence userId presence => exact engine.upsert_presence_total
  case removePresence userId =>
      cases known : engine.presenceCache.has userId with
      | true =>
        simp only [taken, known, if_true]
        exact engine.remove_presence_present requestId userId known
      | false =>
        simp only [taken, known, Bool.false_eq_true, if_false]
        exact engine.remove_presence_absent requestId userId known
  case removeUser userId skip =>
      cases known : engine.presenceCache.has userId with
      | true =>
        simp only [taken, known, if_true]
        exact engine.remove_presence_present requestId userId known
      | false =>
        simp only [taken, known, Bool.false_eq_true, if_false]
        exact engine.remove_presence_absent requestId userId known

end PresenceEngine

variable {userId : UserId}

variable {onMessage : ConnectionId} {assigns : PondAssigns}

namespace Tables

variable (tables : Tables)

-- Presence is tracked for joined users only, and these hear the publisher.
structure Attended (tables : Tables) : Prop where
  joined : ∀ userId, tables.presents userId → tables.lists userId
  hosted : ∀ userId, tables.lists userId → tables.hosts userId
  deaf : tables.publisher.isClosed = tables.closed
  wired : tables.Wired

-- Joins, presence calls and removals, with a presence for joined users only.
def TracksJoined (tables : Tables) (op : EngineOp) : Prop :=
  match op with
  | .addUser _ _ _ _ => tables.closed = false
  | .trackPresence userId _ => tables.lists userId
  | .upsertPresence userId _ => tables.lists userId
  | .updatePresence _ _ => True
  | .removePresence _ => True
  | .removeUser _ _ => True
  | _ => False

variable {tables}

theorem remove_presence (attended : tables.Attended) :
    (tables.remove userId).presenceCache = tables.presenceCache.delete userId := by
  simp only [remove]
  split
  · split
    · rename_i nobody
      rw [unsubscribe_frame] at nobody
      have empty : (tables.presenceCache.delete userId).isEmpty = true := by
        apply empty_iff.mpr
        intro other
        rw [Bool.eq_false_iff]
        intro kept
        obtain ⟨apart, present⟩ := has_delete.mp kept
        have listed := (forget_lists tables).mpr ⟨apart, attended.joined other present⟩
        rw [lists, empty_iff.mp nobody other] at listed
        cases listed
      exact (eq_empty empty).symm
    · rw [unsubscribe_frame]
      rfl
  · rename_i unknown
    have absent : tables.presenceCache.has userId = false := by
      rw [Bool.eq_false_iff]
      intro present
      exact unknown ((knows_iff tables).mpr (.inr present))
    exact (delete_absent absent).symm

variable {now : Nat}

theorem presence_step {op : EngineOp} (attended : tables.Attended) (tracks : tables.TracksJoined op) :
    (tables.step now op).presenceCache = (PresenceEngine.taken tables.presenceCache op).getD tables.presenceCache := by
  have deleted : ∀ userId, tables.presenceCache.delete userId =
      (if tables.presenceCache.has userId then some (tables.presenceCache.delete userId) else none).getD
        tables.presenceCache := by
    intro userId
    split
    · rfl
    · rename_i absent
      exact delete_absent (Bool.eq_false_iff.mpr absent)
  cases op with
  | addUser => exact join_presence tables
  | trackPresence | updatePresence =>
    simp only [step, taken]
    split <;> rfl
  | upsertPresence => rfl
  | removePresence userId => exact deleted userId
  | removeUser userId => exact (remove_presence attended).trans (deleted userId)
  | _ => cases tracks

variable {other : UserId}

theorem join_hosts (listening : tables.publisher.isClosed = false)
    (hosted : ∀ userId, tables.lists userId → tables.hosts userId)
    (listed : (tables.join userId assigns onMessage).lists other) :
    (tables.join userId assigns onMessage).hosts other := by
  have before := (join_lists tables userId other assigns onMessage).mp listed
  simp only [join, listening]
  split
  · rename_i known
    exact hosted other (before.elim (fun old => old) fun same => same ▸ known)
  have added : ((tables.list userId assigns).host ⟨userId, onMessage⟩).hosts other :=
    (host_hosts _ _ _).mpr (before.elim (fun old => .inr (hosted other old)) fun same => .inl same)
  simp only [Bool.false_eq_true, if_false]
  split <;> exact added

theorem remove_hosts (hosted : ∀ userId, tables.lists userId → tables.hosts userId)
    (listed : (tables.remove userId).lists other) : (tables.remove userId).hosts other := by
  have apart : other ≠ userId := by
    rintro rfl
    exact remove_unlisted listed
  have before := hosted other (remove_lists tables listed)
  simp only [remove] at listed ⊢
  split
  · rename_i known
    simp only [known, if_true] at listed
    split
    · rename_i nobody
      rw [if_pos nobody] at listed
      cases listed
    · exact (unsubscribe_hosts _).mpr ⟨apart, before⟩
  · exact before

theorem remove_spares (apart : other ≠ userId) (listed : tables.lists other) : (tables.remove userId).lists other := by
  have kept : ((tables.forget userId).unsubscribe userId).lists other := by
    rw [unsubscribe_frame]
    exact (forget_lists tables).mpr ⟨apart, listed⟩
  simp only [remove]
  split
  · split
    · rename_i nobody
      rw [lists, empty_iff.mp nobody other] at kept
      cases kept
    · exact kept
  · exact listed

theorem joined_step {op : EngineOp} (attended : tables.Attended) (tracks : tables.TracksJoined op) (userId : UserId)
    (present : (tables.step now op).presents userId) : (tables.step now op).lists userId := by
  rw [presents, presence_step attended tracks] at present
  cases op with
  | addUser other assigns onMessage =>
    exact (join_lists tables other userId assigns onMessage).mpr (.inl (attended.joined userId present))
  | trackPresence =>
    simp only [step]
    simp only [taken] at present
    split
    · rename_i known
      rw [if_pos known] at present
      exact attended.joined userId present
    rename_i unknown
    rw [if_neg unknown] at present
    rcases has_set.mp present with rfl | old
    · exact tracks
    · exact attended.joined userId old
  | updatePresence =>
    simp only [step]
    simp only [taken] at present
    split
    · rename_i known
      rw [if_pos known] at present
      rcases has_set.mp present with rfl | old
      · exact attended.joined userId known
      · exact attended.joined userId old
    rename_i unknown
    rw [if_neg unknown] at present
    exact attended.joined userId present
  | upsertPresence =>
    rcases has_set.mp present with rfl | old
    · exact tracks
    · exact attended.joined userId old
  | removePresence =>
    simp only [taken] at present
    split at present
    · exact attended.joined userId (has_delete.mp present).2
    · exact attended.joined userId present
  | removeUser other =>
    simp only [taken] at present
    split at present
    · obtain ⟨apart, old⟩ := has_delete.mp present
      exact remove_spares apart (attended.joined userId old)
    rename_i absent
    have apart : userId ≠ other := by
      rintro rfl
      exact absent present
    exact remove_spares apart (attended.joined userId present)
  | _ => cases tracks

theorem hosted_step {op : EngineOp} (attended : tables.Attended) (tracks : tables.TracksJoined op) (userId : UserId)
    (listed : (tables.step now op).lists userId) : (tables.step now op).hosts userId := by
  cases op with
  | addUser => exact join_hosts (attended.deaf.trans tracks) attended.hosted listed
  | trackPresence other =>
    cases known : tables.presenceCache.has other <;> simp only [step, known] at listed ⊢ <;>
      exact attended.hosted userId listed
  | updatePresence other =>
    cases known : tables.presenceCache.has other <;> simp only [step, known] at listed ⊢ <;>
      exact attended.hosted userId listed
  | upsertPresence | removePresence => exact attended.hosted userId listed
  | removeUser => exact remove_hosts attended.hosted listed
  | _ => cases tracks

theorem attended_step (now : Nat) {op : EngineOp} (attended : tables.Attended)
    (tracks : tables.TracksJoined op) : (tables.step now op).Attended := by
  refine ⟨joined_step attended tracks, hosted_step attended tracks, ?_, wired_step attended.wired⟩
  have called : op ≠ .distributedSubscribed := by
    rintro rfl
    exact tracks
  have same := gates_step tables now op called
  have closed : (tables.step now op).closed = _ := congrArg Prod.fst same
  have deaf : (tables.step now op).publisher.isClosed = _ := congrArg (fun all => all.2.1) same
  rw [closed, deaf]
  cases tables.shuts op with
  | true => rfl
  | false => exact attended.deaf

end Tables

namespace ChannelEngine

variable (engine : ChannelEngine) (op : EngineOp)

variable {outcome : Outcome}

def presenceEvents (engine : ChannelEngine) (op : EngineOp) : List InternalChannelEvent :=
  match PresenceEngine.call op with
  | none => []
  | some action =>
    match action engine.getOrCreatePresenceEngine engine.uuid with
    | .error _ => []
    | .ok (_, event) => [event]

def spread (engine : ChannelEngine) (events : List InternalChannelEvent) : List (Subscriber × ChannelEvent) :=
  events.flatMap fun event => engine.audience event.recipients event.toChannelEvent

def refusal (engine : ChannelEngine) (op : EngineOp) : Option Thrown :=
  match op with
  | .trackPresence userId presence => (engine.trackPresence userId presence).thrown
  | .updatePresence userId presence => (engine.updatePresence userId presence).thrown
  | .upsertPresence userId presence => (engine.upsertPresence userId presence).thrown
  | .removePresence userId => (engine.removePresence userId).thrown
  | _ => none

def Labelled (engine : ChannelEngine) : Prop :=
  ∀ presence, engine.presenceEngine = some presence → presence.channelId = engine.name

def presenceList (event : ChannelEvent) : Option (List PondPresence) :=
  match event.action, event.payload with
  | .presence, .presence _ presence => some presence
  | _, _ => none

def toldTo (engine : ChannelEngine) (userId : UserId) : List ChannelEvent :=
  (engine.handed.filter fun pair => pair.1.userId = userId).map Prod.snd

def lastPresence (engine : ChannelEngine) (userId : UserId) : Option (List PondPresence) :=
  ((engine.toldTo userId).filterMap presenceList).getLast?

theorem presence_events_spec (labelled : engine.Labelled)
    (action : PresenceEngine → RequestId → Except Thrown (PresenceEngine × InternalChannelEvent))
    (called : PresenceEngine.call op = some action) :
    match PresenceEngine.taken engine.getPresence op with
    | none => engine.presenceEvents op = []
    | some cache => ∃ event, engine.presenceEvents op = [event] ∧ PresenceEngine.Tells event engine.name cache := by
  have spec := engine.getOrCreatePresenceEngine.call_spec engine.uuid called
  have named : engine.getOrCreatePresenceEngine.channelId = engine.name := by
    rw [getOrCreatePresenceEngine]
    cases there : engine.presenceEngine with
    | none => rfl
    | some presence => exact labelled presence there
  rw [get_or_create_cache] at spec
  simp only [presenceEvents, called]
  cases outcome : taken engine.getPresence op with
  | none =>
    rw [outcome] at spec
    obtain ⟨_, failed⟩ := spec
    rw [failed]
  | some =>
    rw [outcome] at spec
    obtain ⟨event, done⟩ := spec
    have tells := call_tells called done
    rw [named] at tells
    rw [done]
    exact ⟨event, rfl, tells⟩

theorem presence_says (called : PresenceEngine.call op = some action) :
    engine.presenceSays action = engine.spread (engine.presenceEvents op) := by
  simp only [presenceSays, presenceEvents, called]
  cases action engine.getOrCreatePresenceEngine engine.uuid with
  | error => rfl
  | ok => simp [spread]

theorem handed_then_broadcast (body : MessageBody) :
    (outcome.andThen fun engine => ⟨engine.broadcastToNodes body, none⟩).engine.handed = outcome.engine.handed := by
  simp only [Outcome.andThen]
  cases outcome.thrown with
  | none => exact handed_broadcast outcome.engine body
  | some => rfl

theorem no_presence (absent : ¬ engine.presenceEngine.isSome = true) :
    engine.getPresence = .empty := by
  rw [getPresence]
  cases there : engine.presenceEngine with
  | none => rfl
  | some =>
    rw [there] at absent
    exact absurd rfl absent

theorem removal_events
    (called : PresenceEngine.call op = some fun inner requestId => inner.removePresence requestId userId)
    (absent : engine.getPresence.has userId = false) : engine.presenceEvents op = [] := by
  obtain ⟨_, failed⟩ := engine.getOrCreatePresenceEngine.remove_presence_absent engine.uuid userId
    (by rw [get_or_create_cache]; exact absent)
  simp [presenceEvents, called, failed]

theorem handed_presence_op (now : Nat) (op : EngineOp)
    (action : PresenceEngine → RequestId → Except Thrown (PresenceEngine × InternalChannelEvent))
    (called : PresenceEngine.call op = some action) :
    (engine.act now op).handed = engine.handed ++ engine.spread (engine.presenceEvents op) := by
  cases op with
  | trackPresence userId presence =>
    simp only [act, trackPresence]
    rw [handed_then_broadcast, handed_presence_action, presence_says engine (.trackPresence userId presence) rfl]
  | updatePresence userId presence =>
    simp only [act, updatePresence]
    rw [handed_then_broadcast, handed_presence_action, presence_says engine (.updatePresence userId presence) rfl]
  | upsertPresence userId presence =>
    simp only [act, upsertPresence]
    rw [handed_then_broadcast, handed_presence_action, presence_says engine (.upsertPresence userId presence) rfl]
  | removePresence userId =>
    simp only [act, removePresence]
    split
    · rw [handed_then_broadcast, handed_presence_action, presence_says engine (.removePresence userId) rfl]
    rename_i absent
    rw [removal_events engine _ rfl (by rw [no_presence engine absent]; rfl)]
    exact (append_nil _).symm
  | removeUser userId skip =>
    have removed : (engine.act now (.removeUser userId skip)).handed = _ := handed_remove_user engine userId
    rw [removed]
    congr 1
    cases present : engine.getPresence.has userId with
    | false =>
      rw [removal_says_nothing engine userId present, ite_self, removal_events engine _ rfl present]
      rfl
    | true =>
      have known : engine.tables.knows userId = true := (Tables.knows_iff _).mpr (.inr present)
      have there : engine.presenceEngine.isSome = true := by
        by_contra absent
        rw [no_presence engine absent] at present
        cases present
      rw [if_pos known, removalSays, if_pos there]
      exact presence_says engine (.removeUser userId skip) rfl
  | _ => cases called

variable {body : MessageBody}

theorem then_broadcast_thrown :
    (outcome.andThen fun engine => ⟨engine.broadcastToNodes body, none⟩).thrown = outcome.thrown := by
  simp only [Outcome.andThen]
  cases refused : outcome.thrown with
  | none => rfl
  | some => exact refused

theorem refusal_fails (thrown : Thrown)
    (refused : engine.refusal op = some thrown) : PresenceEngine.taken engine.getPresence op = none := by
  have failing : ∀ action, call op = some action → (engine.presenceAction action).thrown = some thrown →
      taken engine.getPresence op = none := by
    intro action called failed
    have spec := engine.getOrCreatePresenceEngine.call_spec engine.uuid called
    rw [get_or_create_cache] at spec
    cases outcome : taken engine.getPresence op with
    | none => rfl
    | some =>
      rw [outcome] at spec
      obtain ⟨_, done⟩ := spec
      rw [presence_action_thrown, done] at failed
      cases failed
  cases op with
  | trackPresence | updatePresence | upsertPresence => exact failing _ rfl (then_broadcast_thrown.symm.trans refused)
  | removePresence =>
    simp only [refusal, removePresence] at refused
    split at refused
    · exact failing _ rfl (then_broadcast_thrown.symm.trans refused)
    · cases refused
  | _ => cases refused

theorem labelled_same (engine next : ChannelEngine) (labelled : engine.Labelled) (name : next.name = engine.name)
    (presence : next.presenceEngine = engine.presenceEngine) : next.Labelled := by
  intro inner there
  rw [name]
  exact labelled inner (presence ▸ there)

theorem labelled_broadcast (body : MessageBody) (labelled : engine.Labelled) :
    (engine.broadcastToNodes body).Labelled := by
  simp only [broadcastToNodes]
  split
  · exact labelled_same engine _ labelled rfl rfl
  · exact labelled

theorem labelled_action (labelled : engine.Labelled) (called : PresenceEngine.call op = some action) :
    (engine.presenceAction action).engine.Labelled := by
  have named : engine.getOrCreatePresenceEngine.channelId = engine.name := by
    rw [getOrCreatePresenceEngine]
    cases there : engine.presenceEngine with
    | none => rfl
    | some presence => exact labelled presence there
  have spec := engine.getOrCreatePresenceEngine.call_spec engine.uuid called
  simp only [presenceAction]
  cases outcome : taken engine.getOrCreatePresenceEngine.presenceCache op with
  | none =>
    rw [outcome] at spec
    obtain ⟨_, failed⟩ := spec
    rw [failed]
    intro inner there
    cases there
    exact named
  | some =>
    rw [outcome] at spec
    obtain ⟨_, done⟩ := spec
    rw [done]
    intro inner there
    cases there
    exact named

theorem labelled_then_broadcast (labelled : outcome.engine.Labelled) :
    (outcome.andThen fun engine => ⟨engine.broadcastToNodes body, none⟩).engine.Labelled := by
  simp only [Outcome.andThen]
  cases outcome.thrown with
  | none => exact labelled_broadcast outcome.engine body labelled
  | some => exact labelled

theorem labelled_add_user (labelled : engine.Labelled) :
    (engine.addUser userId assigns onMessage requestId).engine.Labelled := by
  simp only [addUser]
  split
  · exact labelled
  split
  · exact labelled_same engine _ labelled rfl rfl
  rename_i next subscribed
  have kept : next.Labelled := by
    simp only [buildSubscriber] at subscribed
    split at subscribed
    · cases subscribed
    · cases subscribed
      exact labelled_same engine _ labelled rfl rfl
  apply labelled_broadcast
  split
  · simp only [afterDistributedReady]
    split
    · exact labelled_broadcast next _ kept
    · exact labelled_same next _ kept rfl rfl
  · exact kept

theorem labelled_close : engine.close.Labelled := by
  intro inner there
  simp only [close, emit] at there
  split at there <;> cases there

theorem labelled_remove_user {skip : Bool} (labelled : engine.Labelled) : (engine.removeUser userId skip).Labelled := by
  have forgotten : (engine.forget userId).Labelled := by
    simp only [forget, safeRemovePresence]
    split
    · exact labelled_action { engine with assignsCache := engine.assignsCache.delete userId } (.removePresence userId)
        labelled rfl
    · exact labelled
  have left : ((engine.forget userId).unsubscribeUser userId).Labelled := by
    simp only [unsubscribeUser]
    split
    · exact forgotten
    · exact labelled_same _ _ forgotten rfl rfl
  simp only [removeUser]
  split
  · exact labelled
  have told : (if skip then (engine.forget userId).unsubscribeUser userId
      else ((engine.forget userId).unsubscribeUser userId).broadcastToNodes (.userLeft userId)).Labelled := by
    split
    · exact left
    · exact labelled_broadcast _ _ left
  have closed : ∀ next : ChannelEngine, next.Labelled → (if next.assignsCache.isEmpty then next.close else next).Labelled := by
    intro next kept
    split
    · exact labelled_close next
    · exact kept
  exact labelled_same _ _ (closed _ told) rfl rfl

theorem labelled_step (now : Nat) {op : EngineOp} (tracks : engine.tables.TracksJoined op)
    (labelled : engine.Labelled) : (engine.act now op).Labelled := by
  cases op with
  | addUser => exact labelled_add_user engine labelled
  | trackPresence userId presence =>
    exact labelled_then_broadcast (labelled_action engine (.trackPresence userId presence) labelled rfl)
  | updatePresence userId presence =>
    exact labelled_then_broadcast (labelled_action engine (.updatePresence userId presence) labelled rfl)
  | upsertPresence userId presence =>
    exact labelled_then_broadcast (labelled_action engine (.upsertPresence userId presence) labelled rfl)
  | removePresence userId =>
    simp only [act, removePresence]
    split
    · exact labelled_then_broadcast (labelled_action engine (.removePresence userId) labelled rfl)
    · exact labelled
  | removeUser => exact labelled_remove_user engine labelled
  | _ => cases tracks

theorem last_same {T : Type} (old new : List T) (value : T) (same : ∀ item ∈ new, item = value) (some : new ≠ []) :
    (old ++ new).getLast? = .some value := by
  rw [getLast?_append, getLast?_eq_some_getLast some, same _ (getLast_mem some)]
  rfl

theorem told_append (engine next : ChannelEngine) (more : List (Subscriber × ChannelEvent))
    (handed : next.handed = engine.handed ++ more) (userId : UserId) :
    next.toldTo userId = engine.toldTo userId ++ (more.filter fun pair => pair.1.userId = userId).map Prod.snd := by
  rw [toldTo, handed, filter_append, map_append, toldTo]

theorem hosted_observer {tables : Tables} (attended : tables.Attended) (listed : tables.lists userId) :
    ∃ subscriber ∈ tables.publisher.observers.values, subscriber.userId = userId := by
  obtain ⟨id, entry⟩ := has_iff.mp (attended.hosted userId listed)
  obtain ⟨onMessage, row⟩ := attended.wired userId id entry
  exact ⟨⟨userId, onMessage⟩, mem_map.mpr ⟨(id, _), mem_entries.mpr row, rfl⟩, rfl⟩

variable {next : ChannelEngine}

theorem last_told {engine : ChannelEngine} {cache : OrderedMap UserId PondPresence} (attended : engine.tables.Attended)
    (listed : engine.tables.lists userId) (present : cache.has userId = true)
    (tells : PresenceEngine.Tells event engine.name cache)
    (handed : next.handed = engine.handed ++ engine.spread [event]) : next.lastPresence userId = some cache.values := by
  obtain ⟨_, payload⟩ := tells.payload
  have list : presenceList event.toChannelEvent = some cache.values := by
    simp only [presenceList, tells.action, payload]
  have audience : engine.spread [event] = engine.audience event.recipients event.toChannelEvent := by simp [spread]
  rw [audience] at handed
  rw [lastPresence, told_append engine next _ handed, filterMap_append]
  apply last_same
  · intro item member
    obtain ⟨_, inside, listing⟩ := mem_filterMap.mp member
    obtain ⟨_, chosen, rfl⟩ := mem_map.mp inside
    obtain ⟨subscriber, _, rfl⟩ := mem_map.mp (mem_filter.mp chosen).1
    rw [list] at listing
    exact (Option.some.inj listing).symm
  obtain ⟨subscriber, observes, rfl⟩ := hosted_observer attended listed
  have among : subscriber.userId ∈ event.recipients := by
    rw [tells.recipients]
    exact mem_keys.mpr present
  apply ne_nil_of_mem (a := cache.values)
  refine mem_filterMap.mpr ⟨event.toChannelEvent, mem_map.mpr ⟨(subscriber, _), ?_, rfl⟩, list⟩
  refine mem_filter.mpr ⟨mem_map.mpr ⟨subscriber, mem_filter.mpr ⟨observes, ?_⟩, rfl⟩, decide_eq_true rfl⟩
  exact contains_iff_mem.mpr among

structure Viewed (engine : ChannelEngine) : Prop where
  attended : engine.tables.Attended
  labelled : engine.Labelled
  told : ∀ userId, engine.tables.presents userId → engine.lastPresence userId = some engine.getPresence.values
  named : ∀ pair ∈ engine.handed, pair.2.channelName = engine.name

def TracksJoined (engine : ChannelEngine) (label : Nat × EngineOp) : Prop := engine.tables.TracksJoined label.2

theorem presence_act (now : Nat) (op : EngineOp) (attended : engine.tables.Attended)
    (tracks : engine.tables.TracksJoined op) :
    (engine.act now op).getPresence = PresenceEngine.replay engine.getPresence (now, op) := by
  have step : (engine.act now op).tables = engine.tables.step now op := tables_act now
  have cache : (engine.act now op).getPresence = (engine.tables.step now op).presenceCache :=
    congrArg Tables.presenceCache step
  rw [cache, Tables.presence_step attended tracks]
  rfl

theorem name_kept (now : Nat) (op : EngineOp) : (engine.act now op).name = engine.name :=
  congrArg Voice.name voice_act

theorem viewed_quiet {engine : ChannelEngine} (viewed : engine.Viewed) (attended : next.tables.Attended)
    (labelled : next.Labelled) (name : next.name = engine.name) (presence : next.getPresence = engine.getPresence)
    {more : List (Subscriber × ChannelEvent)} (handed : next.handed = engine.handed ++ more)
    (about : ∀ pair ∈ more, pair.2.channelName = engine.name ∧ presenceList pair.2 = none) : next.Viewed := by
  refine ⟨attended, labelled, fun userId present => ?_, fun pair member => ?_⟩
  · have silent : ((more.filter fun pair => pair.1.userId = userId).map Prod.snd).filterMap presenceList = [] := by
      rw [filterMap_eq_nil_iff]
      intro told inside
      obtain ⟨pair, chosen, rfl⟩ := mem_map.mp inside
      exact (about pair (mem_filter.mp chosen).1).2
    have before : engine.tables.presents userId := by
      have same : next.getPresence.has userId = true := present
      rw [presence] at same
      exact same
    rw [lastPresence, told_append engine next more handed, filterMap_append, silent, append_nil, presence]
    exact viewed.told userId before
  · rw [handed] at member
    rw [name]
    exact (mem_append.mp member).elim (viewed.named pair) fun new => (about pair new).1

theorem presence_leaves (called : PresenceEngine.call op = some action) : op.arrives = false := by
  cases op with
  | trackPresence | updatePresence | upsertPresence | removePresence | removeUser => rfl
  | _ => cases called

theorem viewed_step {label : Nat × EngineOp} (viewed : engine.Viewed)
    (tracks : engine.TracksJoined label) : (engine.stepAt label).Viewed := by
  obtain ⟨now, op⟩ := label
  change (engine.act now op).Viewed
  have attended : (engine.act now op).tables.Attended := by
    rw [tables_act]
    exact Tables.attended_step now viewed.attended tracks
  have labelled := labelled_step engine now tracks viewed.labelled
  have name := name_kept engine now op
  have presence := presence_act engine now op viewed.attended tracks
  cases called : call op with
  | none =>
    cases op with
    | addUser userId assigns onMessage requestId =>
      apply viewed_quiet viewed attended labelled name presence
        (handed_add_user engine userId assigns onMessage requestId)
      intro pair member
      split at member
      · cases member
      · rw [mem_singleton.mp member]
        exact ⟨rfl, rfl⟩
    | trackPresence | updatePresence | upsertPresence | removePresence | removeUser => cases called
    | _ => cases tracks
  | some action =>
    have spec := presence_events_spec engine op viewed.labelled action called
    have handed := handed_presence_op engine now op action called
    cases outcome : taken engine.getPresence op with
    | none =>
      rw [outcome] at spec
      have same : (engine.act now op).getPresence = engine.getPresence := by
        rw [presence, replay, outcome]
        rfl
      rw [spec] at handed
      exact viewed_quiet viewed attended labelled name same handed fun pair member => absurd member not_mem_nil
    | some cache =>
      rw [outcome] at spec
      obtain ⟨_, events, tells⟩ := spec
      have next : (engine.act now op).getPresence = cache := by
        rw [presence, replay, outcome]
        rfl
      rw [events] at handed
      refine ⟨attended, labelled, fun userId present => ?_, fun pair member => ?_⟩
      · have listed : engine.tables.lists userId := by
          have after := attended.joined userId present
          rw [tables_act] at after
          rcases Tables.call_lists engine.tables now (presence_leaves op called) after with
            before | ⟨assigns, onMessage, requestId, rfl⟩
          · exact before
          · cases called
        have among : cache.has userId = true := next ▸ present
        rw [next]
        exact last_told viewed.attended listed among tells handed
      · rw [handed] at member
        rw [name]
        rcases mem_append.mp member with old | new
        · exact viewed.named pair old
        obtain ⟨_, same, inside⟩ := mem_flatMap.mp new
        cases mem_singleton.mp same
        obtain ⟨_, _, rfl⟩ := mem_map.mp inside
        exact tells.channelName

theorem viewed_run (endpointId name : String) (nodeId : NodeId) (backend : Option DistributedBackend)
    (labels : List (Nat × EngineOp)) (tracks : Follows stepAt TracksJoined (.new endpointId name nodeId backend) labels) :
    (run stepAt (.new endpointId name nodeId backend) labels).Viewed := by
  refine run_keeps stepAt TracksJoined Viewed (fun engine label viewed tracks => viewed_step engine viewed tracks)
    _ labels ⟨⟨?_, ?_, rfl, ?_⟩, ?_, ?_, ?_⟩ tracks
  · intro userId present
    cases present
  · intro userId listed
    cases listed
  · intro userId id found
    cases found
  · intro presence there
    cases there
  · intro userId present
    cases present
  · intro pair member
    simp only [handed, new] at member
    split at member <;> cases member

theorem replay_run {labels : List (Nat × EngineOp)} (viewed : engine.Viewed)
    (tracks : Follows stepAt TracksJoined engine labels) :
    (run stepAt engine labels).getPresence = labels.foldl PresenceEngine.replay engine.getPresence := by
  induction labels generalizing engine with
  | nil => rfl
  | cons label _ ih =>
    have one : (engine.stepAt label).getPresence = replay engine.getPresence label :=
      presence_act engine label.1 label.2 viewed.attended tracks.1
    have later := ih (engine.stepAt label) (viewed_step engine viewed tracks.1) tracks.2
    rw [one] at later
    exact later

end ChannelEngine

namespace Channel

structure Hears (channel : Channel) (name : String) : Prop where
  named : channel.name = name
  joined : channel.joinState = .joined
  subscribed : channel.presenceSub.any (fun id => channel.clientState.observer? id = some .stateChange) = true

variable {name : String}

variable {channel : Channel}

theorem hears_receive (data : ChannelEvent) (hears : channel.Hears name) : (channel.receive data).Hears name := by
  rw [receive_frame]
  exact ⟨hears.named, hears.joined, hears.subscribed⟩

theorem receive_presence (data : ChannelEvent) (hears : channel.Hears name) (about : data.channelName = name) :
    (channel.receive data).presence = (ChannelEngine.presenceList data).getD channel.presence := by
  simp only [receive, if_pos (And.intro (about.trans hears.named.symm) (And.intro hears.joined hears.subscribed))]
  obtain ⟨action, _, _, _, payload⟩ := data
  cases action <;> cases payload <;> rfl

theorem received_presence {events : List ChannelEvent} (channel : Channel) (hears : channel.Hears name)
    (about : ∀ event ∈ events, event.channelName = name) :
    (events.foldl receive channel).presence =
      ((events.filterMap ChannelEngine.presenceList).getLast?).getD channel.presence := by
  induction events generalizing channel with
  | nil => rfl
  | cons first rest ih =>
    rw [foldl_cons, ih _ (hears_receive first hears) fun event member => about event (mem_cons_of_mem _ member),
      receive_presence first hears (about first mem_cons_self), filterMap_cons]
    cases ChannelEngine.presenceList first with
    | none => rfl
    | some => cases rest.filterMap ChannelEngine.presenceList <;> simp [getLast?_cons]

end Channel

namespace ChannelEngine

-- What an operation does to the map, what it publishes and to whom that goes.
structure Answers (engine : ChannelEngine) (now : Nat) (op : EngineOp) : Prop where
  refused : ∀ thrown, engine.refusal op = some thrown → PresenceEngine.taken engine.getPresence op = none ∧
    (engine.act now op).tables = engine.tables
  failed : PresenceEngine.taken engine.getPresence op = none →
    (engine.act now op).getPresence = engine.getPresence ∧ engine.presenceEvents op = []
  succeeded : ∀ cache, PresenceEngine.taken engine.getPresence op = some cache →
    (engine.act now op).getPresence = cache ∧
      ∃ event, engine.presenceEvents op = [event] ∧ PresenceEngine.Tells event engine.name cache
  handed : ∀ action, PresenceEngine.call op = some action →
    (engine.act now op).handed = engine.handed ++ engine.spread (engine.presenceEvents op)

theorem refused_same (engine : ChannelEngine) (now : Nat) (op : EngineOp) (thrown : Thrown)
    (refused : engine.refusal op = some thrown) : (engine.act now op).tables = engine.tables := by
  have failed := refusal_fails engine op thrown refused
  rw [tables_act]
  cases op with
  | trackPresence =>
    simp only [taken] at failed
    split at failed
    · rename_i known
      exact if_pos known
    · cases failed
  | updatePresence =>
    simp only [taken] at failed
    split at failed
    · cases failed
    · rename_i unknown
      exact if_neg unknown
  | removePresence userId =>
    simp only [taken] at failed
    split at failed
    · cases failed
    rename_i unknown
    have same : engine.getPresence.delete userId = engine.getPresence :=
      delete_absent (Bool.eq_false_iff.mpr unknown)
    exact congrArg (fun cache => { engine.tables with presenceCache := cache }) same
  | upsertPresence => cases failed
  | _ => cases refused

theorem viewed_answers (engine : ChannelEngine) (now : Nat) (op : EngineOp) (viewed : engine.Viewed)
    (tracks : engine.tables.TracksJoined op) : engine.Answers now op := by
  have presence := presence_act engine now op viewed.attended tracks
  refine ⟨fun thrown refused => ⟨refusal_fails engine op thrown refused, refused_same engine now op thrown refused⟩,
    fun failed => ?_, fun cache done => ?_, handed_presence_op engine now op⟩
  · rw [presence, replay, failed]
    refine ⟨rfl, ?_⟩
    cases called : call op with
    | none => simp [presenceEvents, called]
    | some action =>
      have spec := presence_events_spec engine op viewed.labelled action called
      rw [failed] at spec
      exact spec
  · rw [presence, replay, done]
    refine ⟨rfl, ?_⟩
    cases called : call op with
    | none => cases op <;> cases called <;> cases done
    | some action =>
      have spec := presence_events_spec engine op viewed.labelled action called
      rw [done] at spec
      exact spec

theorem presence_views_agree (endpointId name : String) (nodeId : NodeId) (backend : Option DistributedBackend)
    (labels : List (Nat × EngineOp)) (tracks : Follows stepAt TracksJoined (.new endpointId name nodeId backend) labels) :
    let engine := run stepAt (.new endpointId name nodeId backend) labels
    engine.getPresence = labels.foldl replay .empty ∧
      (∀ now op, engine.tables.TracksJoined op → engine.Answers now op) ∧
      ∀ userId, engine.tables.lists userId → engine.getPresence.has userId = true →
        engine.lastPresence userId = some engine.getPresence.values ∧ ∀ client : Channel, client.Hears engine.name →
            ((engine.toldTo userId).foldl Channel.receive client).presence = engine.getPresence.values := by
  intro engine
  have viewed : engine.Viewed := viewed_run endpointId name nodeId backend labels tracks
  refine ⟨?_, fun now op tracks => viewed_answers engine now op viewed tracks, fun userId listed present => ?_⟩
  · exact replay_run _ (viewed_run endpointId name nodeId backend [] trivial) tracks
  have last := viewed.told userId present
  refine ⟨last, fun client hears => ?_⟩
  have about : ∀ event ∈ engine.toldTo userId, event.channelName = engine.name := by
    intro event member
    obtain ⟨pair, chosen, rfl⟩ := mem_map.mp member
    exact viewed.named pair (mem_filter.mp chosen).1
  have heard := Channel.received_presence client hears about
  rw [lastPresence] at last
  rw [heard, last]
  rfl

theorem presence_views_of_two :
    let labels : List (Nat × EngineOp) :=
      [(0, .addUser "u" .empty "u" (.supplied "r")), (0, .addUser "v" .empty "v" (.supplied "s")),
       (0, .trackPresence "u" (.ofList [("at", .string "desk")])), (0, .upsertPresence "v" .empty),
       (0, .removeUser "v" false)]
    (run stepAt (.new "/ws" "room" "n" none) labels).lastPresence "u" = some [.ofList [("at", .string "desk")]] := by
  intro labels
  exact ((presence_views_agree "/ws" "room" "n" none labels ⟨rfl, rfl, rfl, rfl, trivial, trivial⟩).2.2 "u" rfl rfl).1

end ChannelEngine

end PondSocket.Js
