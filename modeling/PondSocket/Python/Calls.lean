import PondSocket.Python.Agreement

namespace PondSocket.Python

open Library List OrderedMap Option Channel Message
open Js (Json UserId NodeId)
open Go (index)

structure Published (before after : Channel) (publications : List Publication) : Prop where
  name : after.name = before.name
  endpointPath : after.endpointPath = before.endpointPath
  nodeId : after.nodeId = before.nodeId
  distributed : after.distributed = before.distributed
  active : after.active = before.active
  connections : after.connections = before.connections
  assigns : after.assigns = before.assigns
  presence : after.presence = before.presence
  published : after.published = before.published ++ publications

theorem Published.trans (first second third : Channel) (left right : List Publication)
    (early : Published first second left) (late : Published second third right) :
    Published first third (left ++ right) := by
  constructor
  · exact late.name.trans early.name
  · exact late.endpointPath.trans early.endpointPath
  · exact late.nodeId.trans early.nodeId
  · exact late.distributed.trans early.distributed
  · exact late.active.trans early.active
  · exact late.connections.trans early.connections
  · exact late.assigns.trans early.assigns
  · exact late.presence.trans early.presence
  · rw [late.published, early.published, append_assoc]

theorem Published.row (before after : Channel) (publications : List Publication) (sent : Published before after publications)
    (userId : UserId) : after.row userId = before.row userId := by
  rw [Channel.row, Channel.row, sent.assigns, sent.presence]

theorem Published.user (before after : Channel) (publications : List Publication) (sent : Published before after publications)
    (userId : UserId) : after.hasUser userId = before.hasUser userId := by
  rw [Channel.hasUser, Channel.hasUser, sent.connections]

namespace Channel

variable (channel : Channel)

theorem published_none : Published channel channel [] :=
  ⟨rfl, rfl, rfl, rfl, rfl, rfl, rfl, rfl, (append_nil _).symm⟩

theorem published_one (publication : Publication) (distributed : channel.distributed = true) :
    Published channel (channel.publish publication) [publication] := by
  rw [publish, if_pos distributed]
  exact ⟨rfl, rfl, rfl, rfl, rfl, rfl, rfl, rfl, rfl⟩

theorem published_dispatch (room : Bool) (event : Event) (recipientIds : List UserId) :
    Published channel (channel.dispatchTo room event recipientIds) [] := by
  simp only [dispatchTo, enqueueDispatch]
  split
  · exact channel.published_none
  split
  · exact channel.published_none
  split
  · exact ⟨rfl, rfl, rfl, rfl, rfl, rfl, rfl, rfl, (append_nil _).symm⟩
  · exact channel.published_none

theorem published_direct (userIds : List UserId) (event : Event) :
    Published channel (channel.sendDirect userIds event) [] :=
  ⟨rfl, rfl, rfl, rfl, rfl, rfl, rfl, rfl, (append_nil _).symm⟩

theorem published_command (moment : Moment) (evict : Bool) (userId : UserId) (reason : String)
    (present : channel.name ≠ "") (distributed : channel.distributed = true) :
    Published channel
      (channel.publishUserCommand moment (if evict then "user:evict" else "user:remove") userId reason).1
      [.event (channel.own "USER_COMMAND" moment.uuid (if evict then "user:evict" else "user:remove")
        (.object [("userId", .string userId), ("reason", .string reason)]))
        (if evict then "user:evict" else "user:remove")] := by
  have command : (if evict then "user:evict" else "user:remove") ≠ "" := by
    cases evict <;> decide
  have checked := (channel.own "USER_COMMAND" moment.uuid (if evict then "user:evict" else "user:remove")
    (.object [("userId", .string userId), ("reason", .string reason)])).checked_complete
      (show "USER_COMMAND" ≠ "" by decide) present moment.drawn command
  simp only [publishUserCommand, checked]
  exact channel.published_one _ distributed

theorem published_presence (moment : Moment) (eventType : PresenceEventTypes) (userId : UserId)
    (changed : Dict) (present : channel.name ≠ "") (distributed : channel.distributed = true) :
    (channel.publishPresenceChange moment eventType userId changed).2 = none ∧
      Published channel (channel.publishPresenceChange moment eventType userId changed).1
        [.event (channel.presenceChange moment.uuid eventType userId changed) eventType.subtype] := by
  have value : eventType.value ≠ "" := by
    cases eventType <;> decide
  have checked := (channel.presenceChange moment.uuid eventType userId changed).checked_complete
    (show "PRESENCE" ≠ "" by decide) present moment.drawn value
  simp only [publishPresenceChange, checked]
  refine ⟨trivial, ?_⟩
  have dispatched := channel.published_dispatch moment.room (channel.presenceChange moment.uuid eventType userId changed)
    channel.presence.keys
  have sent := published_one _ (.event (channel.presenceChange moment.uuid eventType userId changed) eventType.subtype)
    (dispatched.distributed.trans distributed)
  exact .trans _ _ _ _ _ dispatched sent

end Channel

structure Touched (before after : Channel) (userId : UserId) (fresh : List Message) : Prop where
  name : after.name = before.name
  endpointPath : after.endpointPath = before.endpointPath
  nodeId : after.nodeId = before.nodeId
  distributed : after.distributed = before.distributed
  told : ∃ publications, after.published = before.published ++ publications ∧
    List.Forall₂ (Told before) fresh publications
  rows : ∀ other, other ≠ userId → after.row other = before.row other
  users : ∀ other, other ≠ userId → after.hasUser other = before.hasUser other
  about : ∀ message ∈ fresh, message.users = [userId]

variable {userId : UserId} {fresh : List Message} {after : Channel}

section

variable (home : UserId → NodeId) (node : NodeId)

variable (channelName path : String) (before : Channel) {moment : Moment}

def Acts (before after : Channel) : Prop :=
  ∃ fresh, Acted home node before after fresh ∧ Matched home node before after fresh ∧
    (after.active = true → before.active = true)

variable {before}

theorem unchanged_acts (hosted : Hosted home channelName path node before) :
    Acts home node before before := by
  refine ⟨[], ⟨?_, ⟨[], (append_nil _).symm, .nil⟩, fun _ _ => rfl, ?_⟩, ⟨fun _ _ => rfl, ?_⟩, id⟩
  · rw [hosted.name, hosted.endpointPath]
    exact hosted
  · intro message member
    cases member
  · intro userId own part within
    exact within

theorem touched_acted {before : Channel} (hosted : Hosted home channelName path node before)
    (touched : Touched before after userId fresh) (own : home userId = node) (present : userId ≠ "")
    (running : ∀ other, after.hasUser other = true → after.active = true)
    (held : after.hasUser userId = true → (after.assigns.get? userId).isSome = true)
    (gone : after.hasUser userId = false → after.row userId = (none, none)) : Acted home node before after fresh := by
  constructor
  · constructor
    · exact touched.name
    · exact touched.endpointPath
    · exact touched.nodeId.trans hosted.nodeId
    · rw [touched.distributed, hosted.distributed, hosted.endpointPath]
    · intro other there
      by_cases same : other = userId
      · subst same
        exact ⟨own, present, running other there, held there⟩
      have before := there
      rw [touched.users other same] at before
      obtain ⟨located, named, _, assigned⟩ := hosted.users other before
      have row := congrArg Prod.fst (touched.rows other same)
      exact ⟨located, named, running other there, (congrArg isSome row).trans assigned⟩
    · intro other located away
      by_cases same : other = userId
      · subst same
        exact gone away
      rw [touched.users other same] at away
      rw [touched.rows other same]
      exact hosted.absent other located away
  · exact touched.told
  · intro other foreign
    exact touched.rows other fun same => foreign (same ▸ own)
  · intro message member other about
    rw [touched.about message member, List.mem_singleton] at about
    rw [about]
    exact ⟨present, own⟩

theorem touched_matched {before : Channel} (touched : Touched before after userId fresh)
    (effect : effects fresh userId (before.row userId) = after.row userId)
    (within : ∀ part, Within (before.row userId) part → Within (after.row userId) (effects fresh userId part)) :
    Matched home node before after fresh := by
  have others : ∀ other, other ≠ userId → ∀ row, effects fresh other row = row := by
    intro other different row
    apply effects_apart
    intro message member about
    rw [touched.about message member, List.mem_singleton] at about
    exact different about
  constructor
  · intro other _
    by_cases same : other = userId
    · rw [same, effect]
    · rw [others other same, touched.rows other same]
  · intro other _ part bound
    by_cases same : other = userId
    · subst same
      exact within part bound
    · rw [others other same, touched.rows other same]
      exact bound

theorem told_acts (before middle after : Channel) (userId : UserId) (message : Message)
    (publication : Publication) (hosted : Hosted home channelName path node before)
    (kept : middle.name = before.name ∧ middle.endpointPath = before.endpointPath ∧ middle.nodeId = before.nodeId ∧
      middle.distributed = before.distributed ∧ middle.active = before.active ∧ middle.published = before.published)
    (rows : ∀ other, other ≠ userId → middle.row other = before.row other)
    (users : ∀ other, other ≠ userId → middle.hasUser other = before.hasUser other)
    (sent : Published middle after [publication]) (told : Told before message publication) (about : message.users = [userId])
    (own : home userId = node) (present : userId ≠ "") (running : before.active = true)
    (connected : middle.hasUser userId = true) (held : (middle.assigns.get? userId).isSome = true)
    (effect : message.effect userId (before.row userId) = middle.row userId)
    (presence : ∀ part, Within (before.row userId) part → (middle.row userId).2.all OrderedMap.isEmpty = true →
      (message.effect userId part).2 = (middle.row userId).2) :
    Acts home node before after := by
  obtain ⟨name, endpointPath, nodeId, distributed, active, published⟩ := kept
  have touched : Touched before after userId [message] := by
    constructor
    · exact sent.name.trans name
    · exact sent.endpointPath.trans endpointPath
    · exact sent.nodeId.trans nodeId
    · exact sent.distributed.trans distributed
    · refine ⟨[publication], ?_, .cons told .nil⟩
      rw [sent.published, published]
    · intro other different
      rw [sent.row, rows other different]
    · intro other different
      rw [sent.user, users other different]
    · intro other member
      rw [List.mem_singleton.mp member]
      exact about
  have runs : after.active = true := (sent.active.trans active).trans running
  refine ⟨[message], ?_, ?_, fun _ => running⟩
  · apply touched_acted home node channelName path hosted touched own present
    · intro _ _
      exact runs
    · intro _
      rw [sent.assigns]
      exact held
    · intro away
      rw [sent.user, connected] at away
      cases away
  · apply touched_matched home node touched
    · rw [sent.row]
      exact effect
    · intro part within
      rw [sent.row]
      constructor
      · intro vacant
        have none := congrArg Prod.fst vacant
        simp only [Channel.row] at none
        rw [none] at held
        cases held
      · exact presence part within

variable {home node channelName path}

theorem add_user_acts {transport : Transport} {assigns : Dict}
    (hosted : Hosted home channelName path node before) (distributed : before.distributed = true)
    (own : home transport.id = node) (present : transport.id ≠ "") :
    Acts home node before (before.addUser transport assigns).1 := by
  simp only [Channel.addUser]
  split
  · exact unchanged_acts home node channelName path hosted
  rename_i running
  rw [Bool.not_eq_false] at running
  split
  · exact unchanged_acts home node channelName path hosted
  rename_i away
  rw [Bool.not_eq_true] at away
  have vacant := hosted.absent transport.id own away
  apply told_acts home node channelName path before { before with
    connections := before.connections.set transport.id transport
    assigns := before.assigns.set transport.id assigns } _ transport.id (.userJoined transport.id assigns) _ hosted
    ⟨rfl, rfl, rfl, rfl, rfl, rfl⟩ _ _ (published_one _ _ distributed) (.userJoined transport.id assigns) rfl own
    present running
  · exact has_set.mpr (.inl rfl)
  · simp only [get_set_same, isSome_some]
  · have row := congrArg Prod.snd vacant
    simp only [effect, if_true, Channel.row, get_set_same, row]
  · intro part within _
    rw [vacant] at within
    have row := congrArg Prod.snd vacant
    simp only [Channel.row] at row
    simp only [effect, if_true, within_none within, Channel.row, row]
  · intro other different
    simp only [Channel.row, get_set_other different]
  · intro other different
    rw [Bool.eq_iff_iff, Channel.hasUser, has_set]
    exact or_iff_right different

theorem update_assign_acts {key : String} {value : Json} (hosted : Hosted home channelName path node before)
    (distributed : before.distributed = true) (named : before.name ≠ "")
    (here : before.hasUser userId = true ∨ before.assigns.has userId = false) :
    Acts home node before (before.updateAssign moment userId key value).1 := by
  simp only [Channel.updateAssign]
  cases held : before.assigns.get? userId with
  | none => exact unchanged_acts home node channelName path hosted
  | some current =>
    have known : before.assigns.has userId = true := has_iff.mpr ⟨current, held⟩
    have connected : before.hasUser userId = true := here.resolve_right (by rw [known]; simp)
    obtain ⟨own, present, running, _⟩ := hosted.users userId connected
    have checked := (before.own "ASSIGNS" moment.uuid "assigns:update"
      (.object [("userId", .string userId), ("assigns", dictJson (current.set key value))])).checked_complete
        (show "ASSIGNS" ≠ "" by decide) named moment.drawn (show "assigns:update" ≠ "" by decide)
    simp only [Channel.own] at checked ⊢
    simp only [checked]
    apply told_acts home node channelName path before { before with
      assigns := before.assigns.set userId (current.set key value) } _ userId (.assignsUpdate userId (current.set key value)) _
      hosted ⟨rfl, rfl, rfl, rfl, rfl, rfl⟩ _ (fun _ _ => rfl) (published_one _ _ distributed)
      (.assignsUpdate userId (current.set key value) moment.uuid moment.drawn) rfl own present running connected
    · simp only [get_set_same, isSome_some]
    · simp only [effect, if_true, Channel.row, get_set_same, held, map_some]
    · intro part within empty
      simp only [effect, if_true]
      exact within.2 empty
    · intro other different
      simp only [Channel.row, get_set_other different]

theorem presence_acts
    {table : OrderedMap UserId Dict} {eventType : PresenceEventTypes} {changed : Dict} {message : Message}
    (hosted : Hosted home channelName path node before) (distributed : before.distributed = true) (named : before.name ≠ "")
    (connected : before.hasUser userId = true) (others : ∀ other, other ≠ userId → table.get? other = before.presence.get? other)
    (told : Told before message (.event ({ before with presence := table }.presenceChange moment.uuid eventType userId changed)
      eventType.subtype)) (about : message.users = [userId])
    (effect : ∀ row, message.effect userId row = (row.1, table.get? userId)) :
    Acts home node before ({ before with presence := table }.publishPresenceChange moment eventType userId changed).1 := by
  obtain ⟨own, present, running, held⟩ := hosted.users userId connected
  obtain ⟨_, sent⟩ := { before with presence := table }.published_presence moment eventType userId changed named distributed
  apply told_acts home node channelName path before { before with presence := table } _ userId message _ hosted
    ⟨rfl, rfl, rfl, rfl, rfl, rfl⟩ _ (fun _ _ => rfl) sent told about own present running connected held
  · rw [effect]
    rfl
  · intro part _ _
    rw [effect]
    rfl
  · intro other different
    simp only [Channel.row, others other different]

theorem track_presence_acts {data : Dict} (hosted : Hosted home channelName path node before)
    (distributed : before.distributed = true) (named : before.name ≠ "")
    (here : before.hasUser userId = true ∧ Channel.mergedPresence data = data ∨ before.presence.has userId = true) :
    Acts home node before (before.trackPresence moment userId data).1 := by
  simp only [Channel.trackPresence]
  split
  · exact unchanged_acts home node channelName path hosted
  rename_i untracked
  obtain ⟨connected, kept⟩ := here.resolve_right untracked
  apply presence_acts hosted distributed named connected
  · intro other different
    exact get_set_other different
  · exact .presenceUpdate userId data moment.uuid moment.drawn .join (by decide) _
  · rfl
  · intro row
    simp only [effect, if_true, kept, get_set_same]

theorem update_presence_acts {data : Dict} (hosted : Hosted home channelName path node before)
    (distributed : before.distributed = true) (named : before.name ≠ "")
    (here : before.hasUser userId = true ∧ Channel.mergedPresence data = data ∨ before.presence.has userId = false) :
    Acts home node before (before.updatePresence moment userId data).1 := by
  simp only [Channel.updatePresence]
  split
  · exact unchanged_acts home node channelName path hosted
  rename_i tracked
  obtain ⟨connected, kept⟩ := here.resolve_right tracked
  apply presence_acts hosted distributed named connected
  · intro other different
    exact get_set_other different
  · exact .presenceUpdate userId data moment.uuid moment.drawn .update (by decide) _
  · rfl
  · intro row
    simp only [effect, if_true, kept, get_set_same]

theorem untrack_presence_acts (hosted : Hosted home channelName path node before)
    (distributed : before.distributed = true) (named : before.name ≠ "")
    (here : before.hasUser userId = true ∨ before.presence.has userId = false) :
    Acts home node before (before.untrackPresence moment userId).1 := by
  simp only [Channel.untrackPresence]
  cases held : before.presence.get? userId with
  | none => exact unchanged_acts home node channelName path hosted
  | some old =>
    have tracked : before.presence.has userId = true := has_iff.mpr ⟨old, held⟩
    have connected : before.hasUser userId = true := here.resolve_right (by rw [tracked]; simp)
    apply presence_acts hosted distributed named connected
    · intro other different
      exact get_delete_other different
    · exact .presenceRemoved userId old moment.uuid moment.drawn _
    · rfl
    · intro row
      simp only [effect, if_true, get_delete_same]

end

namespace Channel

def without (channel : Channel) (userId : UserId) : Channel :=
  { channel with
    connections := channel.connections.delete userId
    assigns := channel.assigns.delete userId
    presence := channel.presence.delete userId }

theorem without_row (channel : Channel) (userId other : UserId) :
    (channel.without userId).row other = if other = userId then (none, none) else channel.row other := by
  simp only [row, without, get_delete]
  split <;> rfl

theorem without_user (channel : Channel) (userId other : UserId) :
    (channel.without userId).hasUser other = true ↔ other ≠ userId ∧ channel.hasUser other = true :=
  has_delete

theorem untrack_leaves (channel : Channel) {moment : Moment} (distributed : channel.distributed = true)
    (named : channel.name ≠ "") :
    (untrackPresence { channel with
      connections := channel.connections.delete userId
      assigns := channel.assigns.delete userId } moment userId).2 = none ∧
    ∃ removed publications, Published (channel.without userId) (untrackPresence { channel with
        connections := channel.connections.delete userId
        assigns := channel.assigns.delete userId } moment userId).1 publications ∧
      List.Forall₂ (Told channel) removed publications ∧ ∀ message ∈ removed, message = .presenceRemoved userId := by
  simp only [untrackPresence]
  cases held : channel.presence.get? userId with
  | none =>
    refine ⟨rfl, [], [], ?_, .nil, fun message member => by cases member⟩
    have same : channel.presence.delete userId = channel.presence :=
      delete_absent (has_false_iff.mpr held)
    simp only [without, same]
    exact published_none _
  | some old =>
    obtain ⟨quiet, sent⟩ := (channel.without userId).published_presence moment .leave userId old named distributed
    refine ⟨quiet, [.presenceRemoved userId], _, sent, .cons ?_ .nil, fun message member => List.mem_singleton.mp member⟩
    exact .presenceRemoved userId old moment.uuid moment.drawn _

end Channel

section

variable {home : UserId → NodeId} {node : NodeId}

variable {channelName path : String} {before : Channel} (moment : Moment)

variable {reason : String}

theorem remove_acted {skip : Bool} (hosted : Hosted home channelName path node before)
    (distributed : before.distributed = true) (named : before.name ≠ "") (connected : before.hasUser userId = true) :
    ∃ removed, (∀ message ∈ removed, message = .presenceRemoved userId) ∧
      Touched before (before.removeUser moment userId reason skip).1 userId
        (removed ++ if skip then [] else [.userLeft userId]) ∧
      Acted home node before (before.removeUser moment userId reason skip).1
        (removed ++ if skip then [] else [.userLeft userId]) ∧
      (before.removeUser moment userId reason skip).1.row userId = (none, none) := by
  obtain ⟨own, present, running, _⟩ := hosted.users userId connected
  obtain ⟨quiet, removed, publications, sent, told, each⟩ := before.untrack_leaves distributed named
  have there : before.connections.has userId = true := connected
  have result : ∃ left final, Published (before.without userId) left (publications ++ final) ∧
      List.Forall₂ (Told before) (removed ++ if skip then [] else [.userLeft userId]) (publications ++ final) ∧
      (before.removeUser moment userId reason skip).1 = if left.connections.isEmpty then left.close else left := by
    have absent : ¬ before.connections.has userId = false := by
      rw [there]
      simp
    simp only [Channel.removeUser, if_neg absent, andThen]
    generalize Channel.untrackPresence _ moment userId = untracked at quiet sent ⊢
    obtain ⟨left, _⟩ := untracked
    subst quiet
    cases skip with
    | true =>
      refine ⟨left, [], ?_, ?_, rfl⟩
      · rw [append_nil]
        exact sent
      · exact rel_append told .nil
    | false =>
      have later := published_one left (.distributed .userLeft [("userId", .string userId)])
        (sent.distributed.trans distributed)
      refine ⟨_, _, .trans _ _ _ _ _ sent later, ?_, rfl⟩
      exact rel_append told (.cons (.userLeft userId) .nil)
  obtain ⟨left, _, reached, said, result⟩ := result
  have fields : ∀ other, (before.removeUser moment userId reason skip).1.row other = (before.without userId).row other ∧
      (before.removeUser moment userId reason skip).1.hasUser other = (before.without userId).hasUser other := by
    intro other
    rw [result]
    split
    · rw [Channel.close]
      split <;> exact ⟨reached.row _ _ _ other, reached.user _ _ _ other⟩
    · exact ⟨reached.row _ _ _ other, reached.user _ _ _ other⟩
  have touched : Touched before (before.removeUser moment userId reason skip).1 userId
      (removed ++ if skip then [] else [.userLeft userId]) := by
    have same : (before.removeUser moment userId reason skip).1.name = left.name ∧
        (before.removeUser moment userId reason skip).1.endpointPath = left.endpointPath ∧
        (before.removeUser moment userId reason skip).1.nodeId = left.nodeId ∧
        (before.removeUser moment userId reason skip).1.distributed = left.distributed ∧
        (before.removeUser moment userId reason skip).1.published = left.published := by
      rw [result]
      split
      · rw [Channel.close]
        split <;> exact ⟨rfl, rfl, rfl, rfl, rfl⟩
      · exact ⟨rfl, rfl, rfl, rfl, rfl⟩
    obtain ⟨name, endpointPath, nodeId, distributedSame, published⟩ := same
    constructor
    · exact name.trans reached.name
    · exact endpointPath.trans reached.endpointPath
    · exact nodeId.trans reached.nodeId
    · exact distributedSame.trans reached.distributed
    · exact ⟨_, published.trans reached.published, said⟩
    · intro other different
      rw [(fields other).1, without_row, if_neg different]
    · intro other different
      rw [(fields other).2, Bool.eq_iff_iff, without_user]
      exact and_iff_right different
    · intro message member
      rcases mem_append.mp member with before | after
      · rw [each message before]
        rfl
      cases skip with
      | true => cases after
      | false =>
        rw [List.mem_singleton.mp after]
        rfl
  have vacant : (before.removeUser moment userId reason skip).1.row userId = (none, none) := by
    rw [(fields userId).1, without_row, if_pos rfl]
  have away : (before.removeUser moment userId reason skip).1.hasUser userId = false := by
    rw [(fields userId).2, ← Bool.not_eq_true, without_user]
    exact fun still => still.1 rfl
  refine ⟨removed, each, touched, ?_, vacant⟩
  apply touched_acted home node channelName path hosted touched own present
  · intro other still
    rw [(fields other).2, ← reached.user] at still
    have kept : left.connections.isEmpty ≠ true := by
      intro none
      rw [Channel.hasUser, empty_iff.mp none other] at still
      cases still
    rw [result, if_neg kept]
    exact reached.active.trans running
  · intro still
    rw [away] at still
    cases still
  · intro _
    exact vacant

theorem remove_user_acts (hosted : Hosted home channelName path node before) (distributed : before.distributed = true)
    (named : before.name ≠ "") (connected : before.hasUser userId = true) :
    Acts home node before (before.removeUser moment userId reason false).1 := by
  obtain ⟨removed, _, touched, acted, vacant⟩ :=
    remove_acted moment hosted distributed named connected
  refine ⟨_, acted, ?_, fun _ => (hosted.users userId connected).2.2.1⟩
  have gone : ∀ row, effects (removed ++ if false = true then [] else [.userLeft userId]) userId row = (none, none) := by
    intro row
    rw [effects_append, if_neg Bool.false_ne_true]
    exact if_pos rfl
  apply touched_matched home node touched
  · rw [gone, vacant]
  intro part _
  rw [gone, vacant]
  exact within_refl

theorem spoken_acted {before : Channel} {active : Bool} (fresh : List Message) {publications : List Publication}
    (hosted : Hosted home channelName path node before) (runs : before.active = true → active = true)
    (sent : Published { before with active := active } after publications)
    (told : List.Forall₂ (Told before) fresh publications)
    (about : ∀ message ∈ fresh, ∀ userId ∈ message.users, userId ≠ "" ∧ home userId = node) :
    Acted home node before after fresh := by
  have rows : ∀ userId, after.row userId = before.row userId := sent.row
  have users : ∀ userId, after.hasUser userId = before.hasUser userId := sent.user
  constructor
  · constructor
    · exact sent.name
    · exact sent.endpointPath
    · exact sent.nodeId.trans hosted.nodeId
    · rw [sent.distributed, hosted.endpointPath]
      exact hosted.distributed
    · intro userId there
      rw [users] at there
      obtain ⟨own, present, running, assigned⟩ := hosted.users userId there
      have row := congrArg Prod.fst (rows userId)
      exact ⟨own, present, sent.active.trans (runs running), (congrArg isSome row).trans assigned⟩
    · intro userId own away
      rw [users] at away
      rw [rows]
      exact hosted.absent userId own away
  · exact ⟨publications, sent.published, told⟩
  · intro userId _
    exact rows userId
  · exact about

theorem idle_matched (before after : Channel) (fresh : List Message) (rows : ∀ userId, after.row userId = before.row userId)
    (idle : ∀ message ∈ fresh, message.users = []) : Matched home node before after fresh := by
  have same : ∀ userId row, effects fresh userId row = row := by
    intro userId row
    apply effects_apart
    intro message member about
    rw [idle message member] at about
    cases about
  constructor
  · intro userId _
    rw [same, rows]
  · intro userId _ part within
    rw [same, rows]
    exact within

theorem answers_matched {before : Channel} (rows : ∀ userId, after.row userId = before.row userId)
    (answers : Answers home node before after fresh) : Matched home node before after fresh := by
  constructor
  · intro userId own
    exact answers userId own _ within_refl
  · intro userId own part within
    rw [answers userId own part (rows userId ▸ within)]
    exact within_refl

theorem command_acts (evict : Bool) (userId : UserId)
    (reason : String) (hosted : Hosted home channelName path node before) (distributed : before.distributed = true)
    (named : before.name ≠ "") :
    Acts home node before
      (before.publishUserCommand moment (if evict then "user:evict" else "user:remove") userId reason).1 := by
  have sent := before.published_command moment evict userId reason named distributed
  refine ⟨[.command evict userId reason], ?_, ?_, fun running => sent.active ▸ running⟩
  · apply spoken_acted _ hosted id sent
    · exact .cons (.command evict userId reason moment.uuid moment.drawn) .nil
    · intro message member other about
      rw [List.mem_singleton.mp member] at about
      cases about
  apply idle_matched before _ _ (sent.row _ _ _)
  intro message member
  rw [List.mem_singleton.mp member]
  rfl

theorem start_acts (hosted : Hosted home channelName path node before)
    (distributed : before.distributed = true) (closed : before.active = false) :
    Acted home node before before.start [.stateRequest] ∧ Matched home node before before.start [.stateRequest] ∧
      before.start.active = true := by
  have shown : before.start = { before with active := true }.publish
      (.distributed .stateRequest [("fromNode", .string before.nodeId)]) :=
    if_neg (by rw [closed]; simp)
  have sent : Published { before with active := true } before.start
      [.distributed .stateRequest [("fromNode", .string before.nodeId)]] :=
    shown ▸ published_one { before with active := true } _ distributed
  refine ⟨?_, ?_, sent.active⟩
  · apply spoken_acted _ hosted (fun _ => rfl) sent (.cons .stateRequest .nil)
    intro message member userId about
    rw [List.mem_singleton.mp member] at about
    cases about
  apply idle_matched before _ _ (sent.row _ _ _)
  intro message member
  rw [List.mem_singleton.mp member]
  rfl

theorem listed_response (ids : List UserId) (userId : UserId) (assigns presence : UserId → Dict) (row : Row) :
    (ids.map fun id => (id, assigns id, presence id)).foldl (responseEffect userId) row =
      if userId ∈ ids then responseEffect userId row (userId, assigns userId, presence userId) else row := by
  induction ids generalizing row with
  | nil => rfl
  | cons id _ ih =>
    rw [map_cons, foldl_cons, ih]
    by_cases same : id = userId
    · subst same
      rw [if_pos (mem_cons_self ..)]
      simp only [responseEffect, if_true]
      split
      · split <;> rfl
      · rfl
    have skipped : responseEffect userId row (id, assigns id, presence id) = row := if_neg same
    rw [skipped]
    simp [Ne.symm same]

theorem request_acts (hosted : Hosted home channelName path node before) (distributed : before.distributed = true) :
    before.handleStateRequest.active = before.active ∧ ∃ fresh, Acted home node before before.handleStateRequest fresh ∧
      Matched home node before before.handleStateRequest fresh ∧ Answers home node before before.handleStateRequest fresh := by
  simp only [Channel.handleStateRequest]
  split
  · rename_i nobody
    have away : ∀ userId, before.hasUser userId = false := empty_iff.mp nobody
    refine ⟨rfl, [], ?_, ?_, ?_⟩
    · exact spoken_acted [] hosted id before.published_none .nil fun message member => by cases member
    · exact idle_matched before before [] (fun _ => rfl) fun message member => by cases member
    · intro userId own part within
      have vacant := hosted.absent userId own (away userId)
      rw [vacant] at within ⊢
      exact within_none within
  · have sent := before.published_one (.distributed .stateResponse [("users", .array before.stateUsers)]) distributed
    have listed : before.stateUsers = (before.connections.keys.map fun userId =>
        (userId, (before.assigns.get? userId).getD .empty, (before.presence.get? userId).getD .empty)).map stateUser := by
      rw [List.map_map]
      rfl
    have answers : Answers home node before (before.publish (.distributed .stateResponse [("users", .array before.stateUsers)]))
        [.stateResponse (before.connections.keys.map fun userId =>
          (userId, (before.assigns.get? userId).getD .empty, (before.presence.get? userId).getD .empty))] := by
      intro userId own part within
      rw [sent.row, effects, foldl_cons, foldl_nil, effect, listed_response]
      simp only [OrderedMap.mem_keys]
      split
      · rename_i connected
        obtain ⟨_, _, _, assigned⟩ := hosted.users userId connected
        obtain ⟨_, held⟩ := isSome_iff_exists.mp assigned
        have kept := within.2
        simp only [Channel.row] at kept
        simp only [responseEffect, if_true, Channel.row, held, getD_some, Prod.mk.injEq, true_and]
        cases tracked : before.presence.get? userId with
        | none =>
          rw [tracked] at kept
          exact kept rfl
        | some =>
          rw [tracked] at kept
          split
          · rename_i none
            exact kept none
          · rfl
      · rename_i away
        have vacant := hosted.absent userId own (Bool.eq_false_iff.mpr away)
        rw [vacant] at within ⊢
        exact within_none within
    refine ⟨sent.active, _, ?_, answers_matched (sent.row _ _ _) answers, answers⟩
    apply spoken_acted _ hosted id sent
    · rw [listed]
      exact .cons (.stateResponse _) .nil
    intro message member userId about
    rw [List.mem_singleton.mp member, users, List.map_map, List.mem_map] at about
    obtain ⟨_, there, same⟩ := about
    simp only [Function.comp] at same
    rw [OrderedMap.mem_keys, same] at there
    obtain ⟨own, present, _⟩ := hosted.users userId there
    exact ⟨present, own⟩

variable {second first : Channel}

theorem acted_after (sent : Published first second []) (acted : Acted home node second after fresh) :
    Acted home node first after fresh := by
  have published : second.published = first.published := by
    rw [sent.published, append_nil]
  constructor
  · rw [← sent.name, ← sent.endpointPath]
    exact acted.hosted
  · obtain ⟨publications, later, told⟩ := acted.told
    refine ⟨publications, published ▸ later, told.imp ?_⟩
    intro message publication each
    exact told_same second first message publication sent.name sent.nodeId each
  · intro userId foreign
    rw [acted.foreign userId foreign, sent.row]
  · exact acted.about

theorem matched_after (sent : Published first second []) (matched : Matched home node second after fresh) :
    Matched home node first after fresh := by
  have rows : ∀ userId, first.row userId = second.row userId := fun userId => (sent.row _ _ _ userId).symm
  constructor
  · intro userId own
    rw [rows]
    exact matched.effect userId own
  · intro userId own part within
    rw [rows] at within
    exact matched.within userId own part within

theorem direct_hosted {userIds : List UserId} {event : Event}
    (hosted : Hosted home channelName path node before) : Hosted home channelName path node (before.sendDirect userIds event) := by
  have sent := before.published_direct userIds event
  have acted := spoken_acted [] hosted id sent .nil fun message member => by cases member
  rw [← hosted.name, ← hosted.endpointPath]
  exact acted.hosted

theorem evicted_checked {channel : Channel} {uuid : String} (reason : String) (named : channel.name ≠ "") (drawn : uuid ≠ "") :
    (channel.evicted uuid reason).checked = some (channel.evicted uuid reason) :=
  (channel.evicted uuid reason).checked_complete (show "SYSTEM" ≠ "" by decide) named drawn (show "EVICTED" ≠ "" by decide)

theorem evict_acted (hosted : Hosted home channelName path node before) (distributed : before.distributed = true)
    (named : before.name ≠ "") (connected : before.hasUser userId = true) :
    ∃ fresh, Acted home node before (before.evictUser moment userId reason).1 fresh := by
  have checked := evicted_checked reason named moment.drawn
  have absent : ¬ before.connections.has userId = false := by
    rw [Bool.not_eq_false]
    exact connected
  simp only [Channel.evictUser, if_neg absent, checked]
  have sent := before.published_direct [userId] (before.evicted moment.uuid reason)
  obtain ⟨_, _, _, acted, _⟩ := remove_acted moment (direct_hosted hosted) distributed named connected
  exact ⟨_, acted_after sent acted⟩

theorem remote_command_acts {str : Json → String} {channelName path : String} {before : Channel} {moment : Moment}
    {event : Event} (hosted : Hosted home channelName path node before) (distributed : before.distributed = true)
    (named : before.name ≠ "") : Acts home node before (before.handleRemoteUserCommand str moment event) := by
  simp only [Channel.handleRemoteUserCommand]
  generalize textOr str (index event.payload "userId") "" = userId
  generalize textOr str (index event.payload "reason") "remote command" = reason
  split
  · exact unchanged_acts home node channelName path hosted
  rename_i here
  rw [not_or, Bool.not_eq_false] at here
  split
  · have checked := evicted_checked reason named moment.drawn
    simp only [checked]
    have sent := before.published_direct [userId] (before.evicted moment.uuid reason)
    obtain ⟨fresh, acted, matched, running⟩ := remove_user_acts moment (direct_hosted hosted) distributed named here.2
    exact ⟨fresh, acted_after sent acted, matched_after sent matched, running⟩
  · exact remove_user_acts moment hosted distributed named here.2

end

end PondSocket.Python
