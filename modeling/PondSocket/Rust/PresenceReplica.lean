import PondSocket.Rust.Codec

namespace PondSocket.Rust

open Library Channel
open Js (Json UserId NodeId)
open Go (asString asMap)

inductive PresenceCall where
  | trackPresence (presence : Table)
  | updatePresence (presence : Table)
  | untrackPresence

namespace Channel

def presenceCall (channel : Channel) (moment : Moment) (userId : UserId) : PresenceCall → Channel × Option PondError
  | .trackPresence presence => channel.trackPresence moment userId (tableJson presence)
  | .updatePresence presence => channel.updatePresence moment userId (tableJson presence)
  | .untrackPresence => (channel.untrackPresence moment userId, none)

end Channel

-- What a call of one node is to leave in the table of another.
def PresenceCall.Replicated (userId : UserId) (before after : OrderedMap UserId Table) : PresenceCall → Prop
  | .trackPresence presence | .updatePresence presence =>
    AlikeTables (after.get? userId) (some presence) ∧
      ∀ other, other ≠ userId → AlikeTables (after.get? other) (before.get? other)
  | .untrackPresence =>
    after.get? userId = none ∧ ∀ other, other ≠ userId → AlikeTables (after.get? other) (before.get? other)

-- The presence names the user itself. One that names another user, or nobody, is
-- found in place only where the table held it before.
def NamesItself (userId : UserId) (presence : Table) (table : OrderedMap UserId Table) : Prop :=
  presence.get? "userId" = some (.string userId) ∨
    ∃ value, presence.get? "userId" = some value ∧ AlikeTables (table.get? userId) (some presence) ∧
      ∀ other, value = .string other → AlikeTables (table.get? other) (some presence)

def PresenceCall.Kept (userId : UserId) (sender receiver : Channel) : PresenceCall → Prop
  | .trackPresence presence | .updatePresence presence => NamesItself userId presence receiver.presence
  | .untrackPresence =>
    match sender.presence.get? userId with
    | none => receiver.presence.has userId = false
    | some old =>
      Channel.leaveTarget old userId = userId ∨
        receiver.presence.has userId = false ∧ receiver.presence.has (Channel.leaveTarget old userId) = false

namespace Channel

variable {userId : UserId}

variable {eventType : PresenceEventType} {changed : Table}

theorem presence_change_published {channel : Channel} {moment : Moment} (distributed : channel.distributed = true) :
    (channel.publishPresenceChange moment userId eventType changed).published =
      channel.published ++ [channel.publication moment.uuid (.presence eventType userId changed)] := by
  rw [publishPresenceChange, dispatch_frame]
  simp only [publishEventToPubsub, if_pos distributed]
  rfl

theorem received_presence (sender stored receiver : Channel) (moment later : Moment) (stamp : Stamp) (userId : UserId)
    (eventType : PresenceEventType) (changed : Table) (distributed : stored.distributed = true)
    (earlier : stored.published = sender.published) (wired : sender.wire stamp = stored.wire stamp)
    (named : stored.name = receiver.name) (apart : ¬ (stored.nodeId ≠ "" ∧ stored.nodeId = receiver.nodeId)) :
    (receiver.received sender (stored.publishPresenceChange moment userId eventType changed) later stamp).presence =
      receiver.changedPresence (stored.decoded moment.uuid later.uuid (.presence eventType userId changed)) := by
  have kind : (stored.decoded moment.uuid later.uuid (.presence eventType userId changed)).action = "PRESENCE" := by
    cases eventType <;> rfl
  obtain ⟨_, effect⟩ := receiver.remote_presence_effect _ kind
  rw [received, presence_change_published distributed, earlier, List.drop_left, List.foldl_cons,
    List.foldl_nil, wired, handle_announced named apart, effect, dispatch_frame]

variable {receiver : Channel}

theorem read_stored {sender : Channel} {uuid fresh : String} (stays : eventType ≠ .leave) :
    receiver.changedPresence (sender.decoded uuid fresh (.presence eventType userId changed)) =
      match presenceUser (orInsertUserId changed userId) with
      | none => receiver.presence
      | some other => receiver.presence.set other (orInsertUserId changed userId) := by
  have table : (some (tableJson (orInsertUserId changed userId))).bind asMap = some (orInsertUserId changed userId) :=
    as_map_table
  cases eventType with
  | leave => exact absurd rfl stays
  | join =>
    have read : (get (sender.decoded uuid fresh (.presence .join userId changed)).payload "changed").bind asMap =
        some (orInsertUserId changed userId) := table
    rw [changedPresence, read, Option.getD_some]
    rfl
  | update =>
    have read : (get (sender.decoded uuid fresh (.presence .update userId changed)).payload "changed").bind asMap =
        some (orInsertUserId changed userId) := table
    rw [changedPresence, read, Option.getD_some]
    rfl

def storedPresence (receiver : Channel) (userId : UserId) (presence : Table) : OrderedMap UserId Table :=
  match presenceUser (orInsertUserId presence userId) with
  | none => receiver.presence
  | some named => receiver.presence.set named (orInsertUserId presence userId)

theorem stored_iff {presence : Table} :
    (AlikeTables ((receiver.storedPresence userId presence).get? userId) (some presence) ∧ ∀ other, other ≠ userId →
        AlikeTables ((receiver.storedPresence userId presence).get? other) (receiver.presence.get? other)) ↔
      NamesItself userId presence receiver.presence := by
  simp only [storedPresence]
  cases named : presence.get? "userId" with
  | none =>
    have inserted : orInsertUserId presence userId = presence.set "userId" (.string userId) :=
      if_neg (by simp [OrderedMap.has, named])
    have user : presenceUser (presence.set "userId" (.string userId)) = some userId :=
      presence_user_table OrderedMap.get_set_same
    rw [inserted, user]
    refine iff_of_false (fun both => ?_) (fun names => ?_)
    · have lookup := both.1.2 "userId"
      simp [named] at lookup
    rcases names with own | ⟨value, there, _⟩
    · rw [named] at own
      cases own
    · rw [named] at there
      cases there
  | some value =>
    have kept : orInsertUserId presence userId = presence := if_pos (by simp [OrderedMap.has, named])
    rw [kept, presence_user_table named, NamesItself, named]
    cases text : asString value with
    | none =>
      have unnamed : ∀ other, value ≠ .string other := by
        rintro other rfl
        cases text
      constructor
      · intro stored
        exact .inr ⟨value, rfl, stored.1, fun other string => absurd string (unnamed other)⟩
      · rintro (own | ⟨_, _, alike, _⟩)
        · exact absurd (Option.some.inj own) (unnamed userId)
        · exact ⟨alike, fun _ _ => alike_refl _⟩
    | some other =>
      have string : value = .string other := by
        cases value <;> simp_all [asString]
      subst string
      by_cases own : other = userId
      · subst own
        refine iff_of_true ⟨?_, fun query different => ?_⟩ (.inl rfl)
        · simp only [OrderedMap.get_set_same]
          exact alike_refl _
        · simp only [OrderedMap.get_set_other different]
          exact alike_refl _
      simp only [OrderedMap.get_set_other (Ne.symm own)]
      constructor
      · rintro ⟨alike, others⟩
        refine .inr ⟨.string other, rfl, alike, fun query string => ?_⟩
        cases string
        have before := others other own
        rw [OrderedMap.get_set_same] at before
        exact alike_symm before
      · rintro (same | ⟨_, there, alike, before⟩)
        · exact absurd (Json.string.inj (Option.some.inj same)) own
        · cases there
          refine ⟨alike, fun query _ => ?_⟩
          by_cases hit : query = other
          · subst hit
            rw [OrderedMap.get_set_same]
            exact alike_symm (before query rfl)
          · rw [OrderedMap.get_set_other hit]
            exact alike_refl _

theorem removed_iff {target : UserId} :
    ((receiver.presence.delete target).get? userId = none ∧ ∀ other, other ≠ userId →
        AlikeTables ((receiver.presence.delete target).get? other) (receiver.presence.get? other)) ↔
      target = userId ∨ receiver.presence.has userId = false ∧ receiver.presence.has target = false := by
  by_cases own : target = userId
  · subst own
    refine iff_of_true ⟨OrderedMap.get_delete_same, fun other different => ?_⟩ (.inl rfl)
    rw [OrderedMap.get_delete_other different]
    exact alike_refl _
  rw [OrderedMap.get_delete_other (Ne.symm own), OrderedMap.has_false_iff]
  constructor
  · rintro ⟨gone, others⟩
    have before := (others target own).1
    rw [OrderedMap.get_delete_same] at before
    exact .inr ⟨gone, before.symm⟩
  · rintro (same | ⟨gone, absent⟩)
    · exact absurd same own
    · rw [OrderedMap.delete_absent absent]
      exact ⟨gone, fun _ _ => alike_refl _⟩

end Channel

-- The table of another node follows a call that went through exactly where the
-- presence names the user itself.
theorem presence_replicated_iff (sender receiver next : Channel) (moment later : Moment) (stamp : Stamp)
    (userId : UserId) (call : PresenceCall) (distributed : sender.distributed = true)
    (named : sender.name = receiver.name) (apart : ¬ (sender.nodeId ≠ "" ∧ sender.nodeId = receiver.nodeId))
    (done : sender.presenceCall moment userId call = (next, none)) :
    call.Replicated userId receiver.presence (receiver.received sender next later stamp).presence ↔
      call.Kept userId sender receiver := by
  cases call with
  | trackPresence presence =>
    simp only [Channel.presenceCall, Channel.trackPresence, as_map_table] at done
    split at done
    · cases done
    cases done
    rw [Channel.received_presence sender { sender with presence := sender.presence.set userId presence } receiver
      moment later stamp userId .join presence distributed rfl rfl named apart, read_stored (by decide)]
    exact stored_iff
  | updatePresence presence =>
    simp only [Channel.presenceCall, Channel.updatePresence, as_map_table] at done
    split at done
    · cases done
    cases done
    rw [Channel.received_presence sender { sender with presence := sender.presence.set userId presence } receiver
      moment later stamp userId .update presence distributed rfl rfl named apart, read_stored (by decide)]
    exact stored_iff
  | untrackPresence =>
    simp only [Channel.presenceCall, Channel.untrackPresence] at done
    cases held : sender.presence.get? userId with
    | none =>
      cases done
      simp only [PresenceCall.Kept, held, OrderedMap.has_false_iff, Channel.received, List.drop_length, List.foldl_nil]
      exact ⟨And.left, fun gone => ⟨gone, fun _ _ => alike_refl _⟩⟩
    | some old =>
      cases done
      simp only [PresenceCall.Kept, held]
      rw [Channel.received_presence sender { sender with presence := sender.presence.delete userId } receiver moment
        later stamp userId .leave old distributed rfl rfl named apart, read_leave]
      exact removed_iff

def replicaSender : Channel := Channel.new "/room" "/ws" "a" true

def replicaReceiver : Channel := Channel.new "/room" "/ws" "b" true

def desk : Table := OrderedMap.empty.set "status" (.string "online")

theorem named_presence_replicated :
    PresenceCall.Replicated "u" replicaReceiver.presence (replicaReceiver.received replicaSender
        (replicaSender.presenceCall codecMoment "u" (.trackPresence (desk.set "userId" (.string "u")))).1 codecMoment
        ⟨"m", 0⟩).presence
      (.trackPresence (desk.set "userId" (.string "u"))) :=
  (presence_replicated_iff replicaSender replicaReceiver _ codecMoment codecMoment ⟨"m", 0⟩ "u"
    (.trackPresence (desk.set "userId" (.string "u"))) rfl rfl (by decide) rfl).mpr (.inl rfl)

-- Without a userId of its own the presence gets one on its way.
theorem presence_grows :
    (replicaSender.presenceCall codecMoment "u" (.trackPresence desk)).2 = none ∧ ¬ PresenceCall.Replicated "u" replicaReceiver.presence
      (replicaReceiver.received replicaSender
        (replicaSender.presenceCall codecMoment "u" (.trackPresence desk)).1 codecMoment ⟨"m", 0⟩).presence
      (.trackPresence desk) := by
  refine ⟨rfl, fun kept => ?_⟩
  have alike := kept.1.2 "userId"
  cases alike

end PondSocket.Rust
